import Markweave.Proofs.Html.Elements
import Markweave.Proofs.Html.TableState
import Markweave.Proofs.Html.TagMarks
import Markweave.Proofs.Markdown.WellNested

namespace Markweave.Html

open Markdown (Event Even Tag WellNested tablesApart)
open Markdown.Event (cells rows startsTable tableOf within)

/-- Whatever is open, and whatever follows, the markup leaves open what was open; or it spoils the nesting. -/
def Nests (ok : Bool) (ms : List Markup) : Prop :=
  ∀ opened rest, matched opened (marks ms ++ rest) = (ok && matched opened rest)

theorem nests_nil : Nests true [] := fun _ _ => rfl

theorem nests_verbatim (t : Text) : Nests true [.verbatim t] := fun _ _ => rfl

theorem nests_void {n : Text} (hn : isVoid n = true) (as : List Attribute) : Nests true [.opening n as] := by
  intro opened rest
  have hmarks : marks [.opening n as] ++ rest = .opening n :: rest := rfl
  rw [hmarks, matched, if_pos hn]
  rfl

namespace Nests

variable {ok : Bool} {ms : List Markup}

theorem append {ok' : Bool} {ms' : List Markup} (h : Nests ok ms) (h' : Nests ok' ms') :
    Nests (ok && ok') (ms ++ ms') := by
  intro opened rest
  rw [marks_append, List.append_assoc, h, h', Bool.and_assoc]

theorem before {ms' : List Markup} (h : Nests ok ms) (h' : Nests true ms') : Nests ok (ms ++ ms') := by
  have := h.append h'
  rwa [Bool.and_true] at this

/-- An element nests when what it holds does and it is closed by its own name. -/
theorem element {n : Text} (hn : isVoid n = false) (as : List Attribute) (m : Text) (h : Nests ok ms) :
    Nests (ok && n == m) (.opening n as :: (ms ++ [.closing m])) := by
  intro opened rest
  have hmarks : marks (.opening n as :: (ms ++ [.closing m])) ++ rest =
      .opening n :: (marks ms ++ .closing m :: rest) := by
    have hopen : marks (.opening n as :: (ms ++ [.closing m])) = .opening n :: marks (ms ++ [.closing m]) := rfl
    rw [hopen, marks_append, List.cons_append, List.append_assoc]
    rfl
  rw [hmarks, matched, if_neg (by simp [hn]), h, matched, Bool.and_assoc]

theorem within {n : Text} (hn : isVoid n = false) (as : List Attribute) (h : Nests ok ms) :
    Nests ok (.opening n as :: (ms ++ [.closing n])) := by
  have := h.element hn as n
  rwa [beq_self_eq_true, Bool.and_true] at this

end Nests

namespace Writer

theorem run_cons (w : Writer) (e : Event) (es : List Event) :
    w.run (e :: es) = (((w.step e).1.run es).1, (w.step e).2 ++ ((w.step e).1.run es).2) := rfl

theorem run_append (w : Writer) (es fs : List Event) :
    w.run (es ++ fs) = (((w.run es).1.run fs).1, (w.run es).2 ++ ((w.run es).1.run fs).2) := by
  induction es generalizing w with
  | nil => rfl
  | cons e es ih => simp only [List.cons_append, run, ih, List.append_assoc]

theorem run_singleton (w : Writer) (e : Event) : w.run [e] = w.step e := by
  simp only [run, List.append_nil]

theorem run_within (w : Writer) (tag : Tag) (inside : List Event) :
    w.run (within tag inside) =
      ((((w.start tag).1.run inside).1.stop tag.stop).1,
        (w.start tag).2 ++ (((w.start tag).1.run inside).2 ++ (((w.start tag).1.run inside).1.stop tag.stop).2)) := by
  rw [within, run_cons, run_append, run_singleton]
  rfl

theorem comments_append (w : Writer) (es fs : List Event) :
    w.comments (es ++ fs) = w.comments es ++ (w.run es).1.comments fs := by
  induction es generalizing w with
  | nil => rfl
  | cons e es ih => rw [List.cons_append, comments, comments, ih, List.append_assoc, run]

theorem comments_within {w : Writer} {tag : Tag} {inside : List Event} (h : w.comments (within tag inside) = []) :
    (w.start tag).1.comments inside = [] ∧
      ((w.start tag).1.run inside).1.commentsAt (.stop tag.stop) = [] := by
  have hstep : (w.step (.start tag)).1 = (w.start tag).1 := rfl
  rw [within, comments, comments_append, hstep, List.append_eq_nil_iff, List.append_eq_nil_iff, comments,
    List.append_eq_nil_iff] at h
  exact ⟨h.2.1, h.2.2.1⟩

end Writer

section Single

variable {w : Writer}

theorem half_nests (i : Directive.Interpreter) {name : Text} (hn : isVoid name = false) (tag text : Text) :
    Nests true (i.half name tag text) := (nests_verbatim text).within hn _

theorem plainText_nests (w : Writer) (s : Text) : Nests true (w.plainText s) := by
  unfold Writer.plainText
  split
  · exact (half_nests _ (by decide) _ _).append (half_nests _ (by decide) _ _)
  · exact nests_verbatim _

theorem pieces_nests {writePlain : Writer → Text → List Markup} (hplain : ∀ w s, Nests true (writePlain w s))
    (w : Writer) {ps : List (Piece InlineToken)} (h : commentsIn ps = []) :
    Nests true (Writer.pieces writePlain w ps).2 := by
  induction ps with
  | nil => exact nests_nil
  | cons p ps ih =>
    match p with
    | .plain s => exact (hplain w s).append (ih h)
    | .found .lineBreak => exact (nests_void (by decide) _).append (ih h)
    | .found (.directive raw) => cases h

theorem rawHtml_nests (w : Writer) {s : Text} (h : commentsIn (inlinePieces s) = []) :
    Nests true (w.rawHtml s).2 := pieces_nests (fun _ _ => nests_verbatim _) w h

theorem html_nests {s : Text} (h : w.commentsAt (.html s) = []) : Nests true (w.html s).2 := by
  unfold Writer.html
  split
  · exact nests_nil
  · next hblock =>
    rw [Writer.commentsAt, hblock] at h
    exact rawHtml_nests w h

theorem step_single_nests {e : Event} (he : e.isSingle = true) (h : w.commentsAt e = []) :
    Nests true (w.step e).2 := by
  cases e with
  | start tag => cases he
  | stop tag => cases he
  | text s =>
    rw [Writer.commentsAt] at h
    rw [Writer.step]
    unfold Writer.text
    split
    · exact nests_nil
    · split
      · exact nests_nil
      · next hcode himage =>
        rw [if_neg (by simp [hcode, himage])] at h
        exact pieces_nests plainText_nests w h
  | code s =>
    rw [Writer.step, Writer.inlineCode]
    split
    · exact nests_nil
    · exact (nests_verbatim _).within (by decide) _
  | html s => exact html_nests h
  | inlineHtml s => exact html_nests h
  | softBreak =>
    rw [Writer.step, Writer.softBreak]
    split
    · exact nests_nil
    · exact nests_verbatim _
  | hardBreak => exact nests_void (by decide) _
  | rule => exact nests_void (by decide) _
  | taskMarker checked => exact nests_void (by decide) _
  | footnoteReference label => exact nests_nil
  | inlineMath s => exact nests_nil
  | displayMath s => exact nests_nil

theorem codeElement_nests (w : Writer) : Nests true w.codeElement :=
  ((nests_verbatim _).append ((nests_verbatim _).append (nests_verbatim _))).within (by decide) _

theorem stopBlock_nests (h : w.commentsAt (.stop .htmlBlock) = []) : Nests true w.stopBlock.2 := by
  unfold Writer.stopBlock
  split
  · next collected hblock =>
    rw [Writer.commentsAt, hblock] at h
    exact rawHtml_nests _ h
  · exact nests_nil

theorem startList_some (w : Writer) (n : Nat) : ∃ as, w.startList (some n) = .opening "ol" as := by
  unfold Writer.startList
  split
  · next h => cases h
  · exact ⟨_, rfl⟩
  · exact ⟨_, rfl⟩

/-- What an element writes around what it holds. -/
theorem free_nests {tag : Tag} (ht : tag.isFree = true) (w : Writer) {w' : Writer}
    (h : w'.commentsAt (.stop tag.stop) = []) {ok : Bool} {ms : List Markup} (hms : Nests ok ms) :
    Nests ok ((w.start tag).2 ++ (ms ++ (w'.stop tag.stop).2)) := by
  cases tag with
  | paragraph => exact hms.within (by decide) _
  | heading level => cases level <;> exact hms.within (by decide) _
  | blockQuote => exact hms.within (by decide) _
  | code kind => exact hms.before (codeElement_nests w')
  | htmlBlock => exact hms.before (stopBlock_nests h)
  | list first =>
    cases first with
    | none => exact hms.within (by decide) _
    | some n =>
      obtain ⟨as, has⟩ := startList_some w n
      have hol : Nests ok (w.startList (some n) :: (ms ++ [.closing "ol"])) := by
        rw [has]
        exact hms.within (by decide) as
      exact hol
  | item => exact hms.within (by decide) _
  | footnote label => exact hms.before nests_nil
  | metadata => exact hms.before nests_nil
  | definitionList => exact hms.within (by decide) _
  | definitionTitle => exact hms.within (by decide) _
  | definition => exact hms.within (by decide) _
  | table alignments => cases ht
  | tableHead => cases ht
  | tableRow => cases ht
  | tableCell => cases ht
  | emphasis => exact hms.within (by decide) _
  | strong => exact hms.within (by decide) _
  | strikethrough => exact hms.within (by decide) _
  | superscript => exact hms.within (by decide) _
  | subscript => exact hms.within (by decide) _
  | link url title => exact hms.within (by decide) _
  | image url title => exact hms.before (nests_void (n := "img") (by decide) [])

end Single

/-- The events nest exactly when their tables are apart, and the writer stays in a head unless there is a table. -/
structure NestedRun (es : List Event) (w : Writer) : Prop where
  nests : Nests (tablesApart 0 es) (w.run es).2
  inHead : (w.run es).1.table.inHead = (w.table.inHead && !es.any startsTable)

/-- From every writer, if no comment is interpreted. -/
def RunsNested (es : List Event) : Prop := ∀ w : Writer, w.comments es = [] → NestedRun es w

theorem RunsNested.append {es fs : List Event} (heven : Even es) (hes : RunsNested es) (hfs : RunsNested fs) :
    RunsNested (es ++ fs) := by
  intro w h
  rw [Writer.comments_append, List.append_eq_nil_iff] at h
  obtain ⟨hnests, hin⟩ := hes w h.1
  obtain ⟨hnests', hin'⟩ := hfs _ h.2
  constructor
  · rw [heven.tablesApart_append, Writer.run_append]
    exact hnests.append hnests'
  · rw [Writer.run_append, hin', hin, List.any_append, Bool.not_or, Bool.and_assoc]

theorem runsNested_single {e : Event} (he : e.isSingle = true) : RunsNested [e] := by
  intro w h
  have hat : w.commentsAt e = [] := by
    rw [Writer.comments, Writer.comments, List.append_nil] at h
    exact h
  have hnone : startsTable e = false := by
    cases e with
    | start tag => cases he
    | _ => rfl
  constructor
  · rw [Writer.run_singleton, tablesApart, tablesApart]
    exact step_single_nests he hat
  · rw [Writer.run_singleton, Writer.step_table w (Markdown.Event.isFree_of_isSingle he), List.any_cons, hnone]
    simp

theorem RunsNested.element {tag : Tag} (ht : tag.isFree = true) {inside : List Event} (heven : Even inside)
    (h : RunsNested inside) : RunsNested (within tag inside) := by
  intro w hcomments
  obtain ⟨hinside, hstop⟩ := Writer.comments_within hcomments
  obtain ⟨hnests, hin⟩ := h _ hinside
  obtain ⟨hnone, hheads⟩ := Markdown.startsTable_free ht
  constructor
  · rw [Writer.run_within, heven.tablesApart_within, hheads, hnone]
    exact free_nests ht w hstop hnests
  · have hstart : (w.start tag).1.table = w.table := Writer.step_table w (e := .start tag) ht
    have hend : (((w.start tag).1.run inside).1.stop tag.stop).1.table = ((w.start tag).1.run inside).1.table :=
      Writer.step_table _ (e := .stop tag.stop) (tag.isFree_stop.trans ht)
    rw [Writer.run_within, hend, hin, hstart, within, List.any_cons, List.any_append, hnone]
    simp [startsTable]

section Table

variable {w : Writer}

/-- The cell of a head is spoilt by a table in it. -/
theorem nests_cell {cell : List Event} (h : RunsNested cell) (hcomments : w.comments (within .tableCell cell) = []) :
    Nests (tablesApart 0 cell && !(w.table.inHead && cell.any startsTable)) (w.run (within .tableCell cell)).2 ∧
      (w.run (within .tableCell cell)).1.table.inHead = (w.table.inHead && !cell.any startsTable) := by
  obtain ⟨hnests, hin⟩ := h w (Writer.comments_within hcomments).1
  have hvoid : isVoid w.table.cellName = false := by
    unfold TableState.cellName
    split <;> decide
  have hname : (w.table.cellName == (w.run cell).1.table.cellName) = !(w.table.inHead && cell.any startsTable) := by
    rw [TableState.cellName, TableState.cellName, hin]
    cases w.table.inHead <;> cases cell.any startsTable <;> decide
  rw [Writer.run_within]
  refine ⟨?_, hin⟩
  rw [← hname]
  exact hnests.element hvoid _ _

theorem nests_cells {contents : List (List Event)} (h : ∀ cell ∈ contents, RunsNested cell)
    (hcomments : w.comments (cells contents) = []) :
    Nests (contents.all fun cell => tablesApart 0 cell && !(w.table.inHead && cell.any startsTable))
        (w.run (cells contents)).2 ∧
      (w.table.inHead = false → (w.run (cells contents)).1.table.inHead = false) := by
  induction contents generalizing w with
  | nil => exact ⟨nests_nil, id⟩
  | cons cell contents ih =>
    rw [List.forall_mem_cons] at h
    rw [cells, List.flatMap_cons, Writer.comments_append, List.append_eq_nil_iff] at hcomments
    obtain ⟨hnests, hin⟩ := nests_cell h.1 hcomments.1
    obtain ⟨hrest, hstays⟩ := ih h.2 hcomments.2
    rw [cells, List.flatMap_cons, Writer.run_append]
    constructor
    · have hverdict := hnests.append hrest
      -- Behind a table the writer is not in the head any more, but then the verdict has been given.
      have hall : (tablesApart 0 cell && !(w.table.inHead && cell.any startsTable) &&
            contents.all fun cell' => tablesApart 0 cell' &&
              !(w.table.inHead && !cell.any startsTable && cell'.any startsTable)) =
          (cell :: contents).all fun cell => tablesApart 0 cell && !(w.table.inHead && cell.any startsTable) := by
        rw [List.all_cons]
        cases w.table.inHead <;> cases cell.any startsTable <;> simp
      rw [hin, hall] at hverdict
      exact hverdict
    · intro hhead
      apply hstays
      rw [hin, hhead]
      rfl

theorem nests_rows {contents : List (List (List Event))} (h : ∀ row ∈ contents, ∀ cell ∈ row, RunsNested cell)
    (hcomments : w.comments (rows contents) = []) (hhead : w.table.inHead = false) :
    Nests (contents.all (·.all (tablesApart 0))) (w.run (rows contents)).2 ∧
      (w.run (rows contents)).1.table.inHead = false := by
  induction contents generalizing w with
  | nil => exact ⟨nests_nil, hhead⟩
  | cons row contents ih =>
    rw [List.forall_mem_cons] at h
    rw [rows, List.flatMap_cons, Writer.comments_append, List.append_eq_nil_iff] at hcomments
    have hstart : (w.start .tableRow).1.table.inHead = false := hhead
    obtain ⟨hcells, hstays⟩ := nests_cells h.1 (Writer.comments_within hcomments.1).1
    have hrow : Nests (row.all (tablesApart 0)) (w.run (within .tableRow (cells row))).2 := by
      rw [hstart] at hcells
      simp only [Bool.false_and, Bool.not_false, Bool.and_true] at hcells
      rw [Writer.run_within]
      exact hcells.within (by decide) _
    have hafter : (w.run (within .tableRow (cells row))).1.table.inHead = false := by
      rw [Writer.run_within]
      exact hstays hstart
    obtain ⟨hrest, hend⟩ := ih h.2 hcomments.2 hafter
    rw [rows, List.flatMap_cons, Writer.run_append]
    exact ⟨hrow.append hrest, hend⟩

/-- A table nests when its cells do: the head and the body are elements that its rows lie in. -/
theorem nests_table {head body : List Markup} {okHead okBody : Bool} (hhead : Nests okHead head)
    (hbody : Nests okBody body) (table thead tr tbody : List Attribute) :
    Nests (okHead && okBody)
      ([.opening "table" table] ++ ([.opening "thead" thead, .opening "tr" tr] ++
        (head ++ [.closing "tr", .closing "thead", .opening "tbody" tbody]) ++ body ++
          [.closing "tbody", .closing "table"])) := by
  have hthead := (hhead.within (n := "tr") (by decide) tr).within (n := "thead") (by decide) thead
  have htbody := hbody.within (n := "tbody") (by decide) tbody
  have htable := (hthead.append htbody).within (n := "table") (by decide) table
  simpa only [List.append_assoc, List.cons_append, List.nil_append] using htable

theorem runsNested_table {alignments : List Markdown.Alignment} {head : List (List Event)}
    {body : List (List (List Event))} (hhead : ∀ cell ∈ head, WellNested cell)
    (hbody : ∀ row ∈ body, ∀ cell ∈ row, WellNested cell) (hheadRuns : ∀ cell ∈ head, RunsNested cell)
    (hbodyRuns : ∀ row ∈ body, ∀ cell ∈ row, RunsNested cell) : RunsNested (tableOf alignments head body) := by
  intro w hcomments
  have hinside := (Writer.comments_within hcomments).1
  rw [Writer.comments_append, List.append_eq_nil_iff] at hinside
  obtain ⟨hheadComments, hrowsComments⟩ := hinside
  obtain ⟨hcells, _⟩ := nests_cells hheadRuns (Writer.comments_within hheadComments).1
  have hinHead : ((w.start (.table alignments)).1.start .tableHead).1.table.inHead = true := rfl
  rw [hinHead] at hcells
  simp only [Bool.true_and, Markdown.tablesApart_and_not] at hcells
  have hrun := Writer.run_within (w.start (.table alignments)).1 .tableHead (cells head)
  have hleft : ((w.start (.table alignments)).1.run (within .tableHead (cells head))).1.table.inHead = false := by
    rw [hrun]
    rfl
  obtain ⟨hrows, hend⟩ := nests_rows hbodyRuns hrowsComments hleft
  constructor
  · rw [Markdown.tablesApart_tableOf hhead hbody, tableOf, Writer.run_within, Writer.run_append,
      congrArg Prod.snd hrun]
    exact nests_table hcells hrows _ _ _ _
  · have hafter : (w.run (tableOf alignments head body)).1.table.inHead = false := by
      rw [tableOf, Writer.run_within, Writer.run_append]
      exact hend
    rw [hafter, tableOf, within, List.any_cons]
    simp [startsTable]

end Table

theorem runsNested_of_wellNested {es : List Event} (h : WellNested es) : RunsNested es := by
  induction h with
  | nil => exact fun w _ => ⟨nests_nil, by simp [Writer.run]⟩
  | single he _ ih => exact (runsNested_single he).append (Markdown.even_single he) ih
  | element ht hinside _ ih ihs => exact (ih.element ht hinside.even).append (hinside.even.within _) ihs
  | @table alignments head body es hhead hbody _ ihhead ihbody ihs =>
    have heven := Even.tableOf alignments (fun cell hcell => (hhead cell hcell).even)
      fun row hrow cell hcell => (hbody row hrow cell hcell).even
    exact (runsNested_table hhead hbody ihhead ihbody).append heven ihs

/-- The markup of a document without comments has quoted values in its tags, and its text holds no tag. -/
theorem uses_write {c : RenderConfig} (hsuppress : c.extensions.suppressHtml = true)
    (hstyle : c.stylePrefix.all Settings.isPrefixChar = true) {events : List Event}
    (hcomments : (Writer.ofConfig c).comments events = []) :
    ∀ m ∈ write c events, m.Uses tagNames (isValueChar · = true) := by
  have hfresh : (Writer.ofConfig c).Fresh c := ⟨rfl, rfl, hsuppress⟩
  have hover := hfresh.over (A := (isValueChar · = true)) (fun _ h => h) fun d hd =>
    isValueChar_of_class (by decide) (by decide) (by decide) (List.all_eq_true.mp hstyle d hd)
  apply AllUse.forall_uses (by decide)
  apply run_uses (fun _ h => h) hover
  rw [hcomments]
  exact fun raw hraw => absurd hraw List.not_mem_nil

/-- Well-nested events are written as well-formed HTML exactly when no table stands in the head of another. -/
theorem wellFormed_write {c : RenderConfig} (hsuppress : c.extensions.suppressHtml = true)
    (hstyle : c.stylePrefix.all Settings.isPrefixChar = true) {events : List Event} (hnested : WellNested events)
    (htexts : ∀ s, Event.text s ∈ events → Text.contains "<!---" s = false)
    (hraw : Text.contains "<!---" (rawHtml events) = false) :
    WellFormed (writeAll (write c events)) ↔ tablesApart 0 events = true := by
  have hcomments := comments_ofConfig_eq_nil c htexts hraw
  have hnests := (runsNested_of_wellNested hnested _ hcomments).nests [] []
  rw [List.append_nil, matched, List.isEmpty_nil, Bool.and_true] at hnests
  rw [wellFormed_writeAll (uses_write hsuppress hstyle hcomments), write, hnests]

/-- A table in the body of another one, with texts and a title that would be markup. -/
def tableInBody : List Event :=
  tableOf [.left] [[.text "<td>"]] [[tableOf [] [[.text "</table>"]] [] ++ within (.link "a" "\">") []]]

theorem wellFormed_write_table_in_body :
    WellNested tableInBody ∧ tablesApart 0 tableInBody = true ∧ WellFormed (writeAll (write .default tableInBody)) := by
  have hnested : WellNested tableInBody := by
    have htext : ∀ s, WellNested [.text s] := fun s => .single rfl .nil
    have hlink : WellNested (within (.link "a" "\">") [] ++ []) := .element rfl .nil .nil
    rw [List.append_nil] at hlink
    apply Markdown.wellNested_tableOf
    · exact List.forall_mem_singleton.mpr (htext _)
    · intro row hrow cell hcell
      rw [List.mem_singleton.mp hrow, List.mem_singleton] at hcell
      rw [hcell]
      exact .table (List.forall_mem_singleton.mpr (htext _)) (fun row hrow => absurd hrow List.not_mem_nil) hlink
  have htexts : ∀ s, Event.text s ∈ tableInBody → Text.contains "<!---" s = false := by
    intro s hs
    have hs : s = "<td>".toList ∨ s = "</table>".toList := by
      simpa [tableInBody, tableOf, within, cells, rows, Tag.stop] using hs
    rcases hs with rfl | rfl
    · decide
    · decide
  have hapart : tablesApart 0 tableInBody = true := by decide
  exact ⟨hnested, hapart, (wellFormed_write rfl (by decide) hnested htexts (by decide)).mpr hapart⟩

/-- A table in the only cell of the head of another one. -/
def tableInHead : List Event := tableOf [] [tableOf [] [] []] []

/-- The cell around it is opened as one of a head and closed as one of a body. -/
theorem not_forall_wellFormed_write :
    ¬ ∀ (c : RenderConfig) (events : List Event), c.extensions.suppressHtml = true →
      c.stylePrefix.all Settings.isPrefixChar = true → WellNested events →
      (∀ s, Event.text s ∈ events → Text.contains "<!---" s = false) →
      Text.contains "<!---" (rawHtml events) = false → WellFormed (writeAll (write c events)) := by
  intro h
  have hnone : ∀ row ∈ ([] : List (List (List Event))), ∀ cell ∈ row, WellNested cell :=
    fun row hrow => absurd hrow List.not_mem_nil
  have hinner : WellNested (tableOf [] [] []) :=
    Markdown.wellNested_tableOf (fun cell hcell => absurd hcell List.not_mem_nil) hnone
  have hnested : WellNested tableInHead :=
    Markdown.wellNested_tableOf (List.forall_mem_singleton.mpr hinner) hnone
  have htexts : ∀ s, Event.text s ∉ tableInHead := by
    intro s hs
    simp [tableInHead, tableOf, within, cells, rows] at hs
  have hformed := h .default tableInHead rfl (by decide) hnested (fun s hs => absurd hs (htexts s)) (by decide)
  rw [wellFormed_writeAll (uses_write rfl (by decide) (by decide))] at hformed
  exact absurd hformed (by decide)

end Markweave.Html
