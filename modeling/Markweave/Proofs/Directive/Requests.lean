import Mathlib.Data.List.Nodup
import Markweave.Directive.Interpreter
import Markweave.Proofs.Html.Written
import Markweave.Proofs.StyleHistory

namespace Markweave

namespace Directive

open Html (Markup)
open StyleRegistry (Call)

/-- What is asked of an interpreter while a document is written. -/
inductive Request
  | comment (raw : Text)
  | splitter (left right : Text)
  | classAttribute (tag : Text)
deriving Repr, DecidableEq

/-- The directives that are carried out for a request. -/
def Request.directives : Request → List Directive
  | comment raw => (recognize? raw).toList
  | splitter left right => [⟨.splitterLeft, left⟩, ⟨.splitterRight, right⟩]
  | classAttribute _ => []

/-- The call of the registry that a directive stands for. -/
def call? (d : Directive) : Option Call :=
  if d.param = [] then none
  else
    let filter := StyleFilter.parse d.param
    match d.kind with
    | .styleSet => some (.set filter.tags filter.styles)
    | .styleReset => some (.reset filter.tags filter.styles)
    | _ => none

theorem call?_eq_none {d : Directive} (h : d.kind = .styleSet ∨ d.kind = .styleReset → d.param = []) :
    d.call? = none := by
  unfold call?
  split
  · rfl
  · next hparam =>
    split
    · next hkind => exact absurd (h (.inl hkind)) hparam
    · next hkind => exact absurd (h (.inr hkind)) hparam
    · rfl

def isToc (d : Directive) : Bool := d.kind = .toc

/-- The id of the k-th table of contents, counted in 64 bits. -/
def tocId (stylePrefix : Text) (k : Nat) : Text :=
  stylePrefix ++ "md-toc-container-" ++ Text.ofNat (k % UInt64.size)

theorem tocId_toNat (stylePrefix : Text) (n : UInt64) :
    tocId stylePrefix n.toNat = stylePrefix ++ "md-toc-container" ++ "-" ++ UInt64.text n := by
  have hdash : "md-toc-container-".toList = "md-toc-container".toList ++ "-".toList := by decide
  rw [tocId, hdash, ← List.append_assoc, Nat.mod_eq_of_lt n.toNat_lt]
  rfl

theorem tocId_eq_iff {stylePrefix : Text} {j k : Nat} :
    tocId stylePrefix j = tocId stylePrefix k ↔ j % UInt64.size = k % UInt64.size := by
  constructor
  · intro h
    exact Text.ofNat_injective (List.append_cancel_left h)
  · intro h
    rw [tocId, tocId, h]

theorem map_tocId_range' (stylePrefix : Text) {j k : Nat} (h : j % UInt64.size = k % UInt64.size) (n : Nat) :
    (List.range' j n).map (tocId stylePrefix) = (List.range' k n).map (tocId stylePrefix) := by
  rw [List.range'_eq_map_range, List.range'_eq_map_range, List.map_map, List.map_map]
  refine List.map_congr_left fun m _ => tocId_eq_iff.mpr ?_
  rw [Nat.add_mod, h, ← Nat.add_mod]

/-- The count comes round behind `2 ^ 64` tables of contents. -/
theorem nodup_tocIds_iff {stylePrefix : Text} {n : Nat} :
    ((List.range' 1 n).map (tocId stylePrefix)).Nodup ↔ n ≤ UInt64.size := by
  rw [List.nodup_map_iff_inj_on (List.nodup_range' 1 Nat.one_pos)]
  constructor
  · intro h
    by_contra hlong
    have hmem : 1 ∈ List.range' 1 n ∧ 1 + UInt64.size ∈ List.range' 1 n := by
      simp only [List.mem_range'_1]
      omega
    have hsame := h 1 hmem.1 (1 + UInt64.size) hmem.2 (tocId_eq_iff.mpr (Nat.add_mod_right 1 _).symm)
    exact absurd hsame (by decide)
  · intro hn j hj k hk h
    have h := tocId_eq_iff.mp h
    simp only [List.mem_range'_1] at hj hk
    simp only [UInt64.size] at hn h
    omega

/-- The ids of the elements that are opened. -/
def openedIds (html : List Markup) : List Text :=
  html.flatMap fun
    | .opening _ attributes => attributes.filterMap fun a => if a.name = "id".toList then a.value else none
    | _ => []

namespace Interpreter

/-- The interpreter after a request. -/
def next (i : Interpreter) : Request → Interpreter
  | .comment raw => (i.interpret raw).2
  | .splitter left right => ((i.render ⟨.splitterLeft, left⟩).2.render ⟨.splitterRight, right⟩).2
  | .classAttribute _ => i

def serve (i : Interpreter) (requests : List Request) : Interpreter := requests.foldl next i

/-- What is written for a comment that asks for a table of contents. -/
def tocHtml (i : Interpreter) : Request → List Markup
  | .comment raw => if (recognize? raw).any isToc then (i.interpret raw).1.html else []
  | _ => []

/-- The ids of the tables of contents that are written for the requests, in their order. -/
def tocIds : Interpreter → List Request → List Text
  | _, [] => []
  | i, r :: rs => openedIds (i.tocHtml r) ++ tocIds (i.next r) rs

theorem changeStyles_snd (i : Interpreter) (change : StyleRegistry → List Text → List Text → StyleRegistry)
    (param : Text) : (i.changeStyles change param).2 =
      if param = [] then i
      else { i with styles := change i.styles (StyleFilter.parse param).tags (StyleFilter.parse param).styles } := by
  unfold changeStyles
  split <;> rfl

/-- All that a directive can change: the registry by its call, and the count of the tables of contents. -/
theorem render_snd (i : Interpreter) (d : Directive) : (i.render d).2 =
    { i with styles := d.call?.toList.foldl Call.apply i.styles,
             nextToc := if isToc d then i.nextToc + 1 else i.nextToc } := by
  obtain ⟨kind, param⟩ := d
  cases kind with
  | styleSet =>
    rw [render, changeStyles_snd, call?]
    split
    · rfl
    · rfl
  | styleReset =>
    rw [render, changeStyles_snd, call?]
    split
    · rfl
    · rfl
  | _ =>
    rw [call?]
    split
    · rfl
    · rfl

theorem next_eq_foldl (i : Interpreter) (r : Request) :
    i.next r = r.directives.foldl (fun i d => (i.render d).2) i := by
  cases r with
  | comment raw =>
    rw [next, interpret, Request.directives]
    cases recognize? raw <;> rfl
  | splitter left right => rfl
  | classAttribute tag => rfl

theorem foldl_render (i : Interpreter) (ds : List Directive) : ds.foldl (fun i d => (i.render d).2) i =
    { i with styles := (ds.filterMap call?).foldl Call.apply i.styles,
             nextToc := i.nextToc + .ofNat (ds.countP isToc) } := by
  induction ds generalizing i with
  | nil =>
    obtain ⟨styles, stylePrefix, app, togglerMode, nextToc⟩ := i
    exact congrArg (Interpreter.mk _ _ _ _) (UInt64.add_zero nextToc).symm
  | cons d ds ih =>
    rw [List.foldl_cons, ih, render_snd, List.countP_cons]
    simp only [Interpreter.mk.injEq, true_and]
    constructor
    · cases hcall : d.call? with
      | none => rw [List.filterMap_cons_none hcall]; rfl
      | some c => rw [List.filterMap_cons_some hcall]; rfl
    · split
      · rw [UInt64.ofNat_add, UInt64.add_comm (.ofNat _), ← UInt64.add_assoc]
        rfl
      · rfl

theorem next_eq (i : Interpreter) (r : Request) : i.next r =
    { i with styles := (r.directives.filterMap call?).foldl Call.apply i.styles,
             nextToc := i.nextToc + .ofNat (r.directives.countP isToc) } := by
  rw [next_eq_foldl, foldl_render]

/-- The requests of a document, one after the other. -/
theorem serve_eq (i : Interpreter) (requests : List Request) : i.serve requests =
    { i with styles := ((requests.flatMap Request.directives).filterMap call?).foldl Call.apply i.styles,
             nextToc := i.nextToc + .ofNat ((requests.flatMap Request.directives).countP isToc) } := by
  rw [← foldl_render, serve, List.foldl_flatMap]
  congr 1
  funext i r
  exact next_eq_foldl i r

theorem interpret_toc {i : Interpreter} {raw param : Text} (h : recognize? raw = some ⟨.toc, param⟩) :
    (i.interpret raw).1 = .rendered i.toc := by
  rw [interpret, h]
  rfl

theorem toc_eq (i : Interpreter) :
    ∃ source, i.toc =
      openDiv (i.stylePrefix ++ "md-toc-container" ++ " " ++ tocId i.stylePrefix i.nextToc.toNat)
        [.of "id" (tocId i.stylePrefix i.nextToc.toNat)] :: closeDiv :: script source := by
  rw [tocId_toNat]
  exact ⟨_, rfl⟩

theorem openedIds_toc (i : Interpreter) : openedIds i.toc = [tocId i.stylePrefix i.nextToc.toNat] := by
  obtain ⟨source, htoc⟩ := i.toc_eq
  rw [htoc]
  simp [openedIds, openDiv, closeDiv, script, Html.Attribute.of]

theorem openedIds_tocHtml (i : Interpreter) (r : Request) :
    openedIds (i.tocHtml r) =
      (List.range' i.nextToc.toNat (r.directives.countP isToc)).map (tocId i.stylePrefix) := by
  cases r with
  | comment raw =>
    rw [tocHtml, Request.directives]
    cases hd : recognize? raw with
    | none => rfl
    | some d =>
      obtain ⟨kind, param⟩ := d
      cases kind with
      | toc =>
        rw [if_pos (show (some (⟨.toc, param⟩ : Directive)).any isToc = true from rfl), interpret_toc hd]
        exact openedIds_toc i
      | _ => rfl
  | splitter left right => rfl
  | classAttribute tag => rfl

/-- The ids go on from request to request. -/
theorem tocIds_eq (i : Interpreter) (requests : List Request) : i.tocIds requests =
    (List.range' i.nextToc.toNat ((requests.flatMap Request.directives).countP isToc)).map (tocId i.stylePrefix) := by
  induction requests generalizing i with
  | nil => rfl
  | cons r rs ih =>
    have hcount : (i.nextToc + .ofNat (r.directives.countP isToc)).toNat % UInt64.size =
        (i.nextToc.toNat + r.directives.countP isToc) % UInt64.size := by
      rw [UInt64.toNat_add, UInt64.toNat_ofNat', Nat.mod_mod, Nat.add_mod_mod]
    rw [tocIds, ih, openedIds_tocHtml, next_eq, map_tocId_range' _ hcount, ← List.map_append, List.flatMap_cons,
      List.countP_append, ← List.range'_append_1]

theorem styles_ofConfig (c : RenderConfig) :
    (ofConfig c).styles = StyleRegistry.after (if c.defaultStyles then some c.stylePrefix else none) [] := by
  rw [ofConfig]
  cases c.defaultStyles <;> rfl

/-- However requests are mixed, the registry is the first one after the calls of the style directives, and nothing
else touches it. Tables of contents are numbered from one in 64 bits, so each has an id of its own until the count
comes round. -/
theorem serve_ofConfig (c : RenderConfig) (requests : List Request) :
    let i := (ofConfig c).serve requests
    let carriedOut := requests.flatMap Request.directives
    i.styles = StyleRegistry.after (if c.defaultStyles then some c.stylePrefix else none) (carriedOut.filterMap call?) ∧
      (∀ r : Request, (∀ d ∈ r.directives, d.kind = .styleSet ∨ d.kind = .styleReset → d.param = []) →
        (i.next r).styles = i.styles) ∧
      (∀ raw param, recognize? raw = some ⟨.toc, param⟩ →
        let id := tocId c.stylePrefix (carriedOut.countP isToc + 1)
        ∃ source, (i.interpret raw).1 = .rendered
          (openDiv (c.stylePrefix ++ "md-toc-container" ++ " " ++ id) [.of "id" id] :: closeDiv :: script source)) ∧
      (ofConfig c).tocIds requests = (List.range' 1 (carriedOut.countP isToc)).map (tocId c.stylePrefix) ∧
      (((ofConfig c).tocIds requests).Nodup ↔ carriedOut.countP isToc ≤ UInt64.size) := by
  intro i carriedOut
  have hids : (ofConfig c).tocIds requests =
      (List.range' 1 (carriedOut.countP isToc)).map (tocId c.stylePrefix) := tocIds_eq (ofConfig c) requests
  have hstyle : i.stylePrefix = c.stylePrefix := congrArg stylePrefix (serve_eq (ofConfig c) requests)
  have hnext : i.nextToc = 1 + .ofNat (carriedOut.countP isToc) :=
    congrArg nextToc (serve_eq (ofConfig c) requests)
  have hnumber : i.nextToc.toNat % UInt64.size = (carriedOut.countP isToc + 1) % UInt64.size := by
    rw [hnext, UInt64.toNat_add, UInt64.toNat_ofNat', Nat.mod_mod, Nat.add_mod_mod, Nat.add_comm]
    rfl
  refine ⟨?_, ?_, ?_, hids, ?_⟩
  · calc i.styles
      _ = (carriedOut.filterMap call?).foldl Call.apply (ofConfig c).styles :=
        congrArg styles (serve_eq (ofConfig c) requests)
      _ = _ := by rw [styles_ofConfig]; rfl
  · intro r hr
    have hcalls : r.directives.filterMap call? = [] :=
      List.filterMap_eq_nil_iff.mpr fun d hd => call?_eq_none (hr d hd)
    rw [next_eq, hcalls]
    rfl
  · intro raw param hraw id
    obtain ⟨source, htoc⟩ := i.toc_eq
    rw [hstyle, tocId_eq_iff.mpr hnumber] at htoc
    exact ⟨source, (interpret_toc hraw).trans (congrArg _ htoc)⟩
  · rw [hids]
    exact nodup_tocIds_iff

/-- Styles that are set and taken back in part, two tables of contents, a splitter and comments that come to nothing. -/
def mixedRequests : List Request :=
  [.comment "STYLE h1 p:big red", .comment "TOC", .comment "no directive", .splitter "left" "right",
    .comment "/STYLE h1:red", .classAttribute "h1", .comment "STYLE", .comment "toc 2", .comment "BOX.INFO note"]

theorem serve_ofConfig_mixed_requests :
    let i := (ofConfig .default).serve mixedRequests
    i.styles =
        StyleRegistry.after (some "jsh-".toList)
          [.set ["h1".toList, "p".toList] ["big".toList, "red".toList], .reset ["h1".toList] ["red".toList]] ∧
      i.styles.classes "h1" = "jsh-md-h1 big" ∧ i.styles.classes "p" = "jsh-md-p big red" ∧
      (i.next (.splitter "left" "right")).styles = i.styles ∧
      (∃ source, (i.interpret "TOC").1 = .rendered (openDiv "jsh-md-toc-container jsh-md-toc-container-3"
        [.of "id" "jsh-md-toc-container-3"] :: closeDiv :: script source)) ∧
      (ofConfig .default).tocIds mixedRequests =
        ["jsh-md-toc-container-1".toList, "jsh-md-toc-container-2".toList] ∧
      ((ofConfig .default).tocIds mixedRequests).Nodup := by
  have hcalls : (mixedRequests.flatMap Request.directives).filterMap call? =
      [.set ["h1".toList, "p".toList] ["big".toList, "red".toList], .reset ["h1".toList] ["red".toList]] := by
    decide +kernel
  have hcount : (mixedRequests.flatMap Request.directives).countP isToc = 2 := by decide +kernel
  have htoc : recognize? "TOC" = some ⟨.toc, []⟩ := by decide +kernel
  have hids : (List.range' 1 2).map (tocId "jsh-") =
      ["jsh-md-toc-container-1".toList, "jsh-md-toc-container-2".toList] := by decide +kernel
  have hthird : openDiv ("jsh-" ++ "md-toc-container" ++ " " ++ tocId "jsh-" 3) [.of "id" (tocId "jsh-" 3)] =
      openDiv "jsh-md-toc-container jsh-md-toc-container-3" [.of "id" "jsh-md-toc-container-3"] := by decide +kernel
  obtain ⟨hstyles, hframe, hnext, htocs, hnodup⟩ := serve_ofConfig .default mixedRequests
  rw [hcalls] at hstyles
  obtain ⟨source, hsource⟩ := hnext "TOC" [] htoc
  rw [hcount] at htocs hnodup hsource
  intro i
  refine ⟨hstyles, ?_, ?_, ?_, ⟨source, ?_⟩, htocs.trans hids, hnodup.mpr (by decide)⟩
  · rw [hstyles]
    decide +kernel
  · rw [hstyles]
    decide +kernel
  · exact hframe (.splitter "left" "right") (by decide)
  · exact hsource.trans (congrArg (fun m => Outcome.rendered (m :: closeDiv :: script source)) hthird)

end Interpreter
end Directive

namespace Html.Writer

open Directive (Interpreter)
open Markdown (Event)

theorem interpreter_pieces (writePlain : Writer → Text → List Markup) (w : Writer) (ps : List (Piece InlineToken)) :
    (pieces writePlain w ps).1.interpreter = w.interpreter.serve ((commentsIn ps).map .comment) := by
  induction ps generalizing w with
  | nil => rfl
  | cons p ps ih =>
    match p with
    | .plain s => exact ih w
    | .found .lineBreak => exact ih w
    | .found (.directive raw) => exact ih (w.directive raw).1

theorem interpreter_html (w : Writer) (s : Text) :
    (w.html s).1.interpreter = w.interpreter.serve ((w.commentsAt (.html s)).map .comment) := by
  rw [html, commentsAt]
  cases w.block with
  | none => exact interpreter_pieces rawText w (inlinePieces s)
  | some collected => rfl

/-- An event asks the interpreter for its comments, and for nothing else that changes it. -/
theorem interpreter_step (w : Writer) (e : Event) :
    (w.step e).1.interpreter = w.interpreter.serve ((w.commentsAt e).map .comment) := by
  cases e with
  | start tag =>
    cases tag with
    | code kind => cases kind <;> rfl
    | _ => rfl
  | stop tag =>
    cases tag with
    | htmlBlock =>
      rw [step, stop, stopBlock, commentsAt]
      cases w.block with
      | none => rfl
      | some collected => exact interpreter_pieces rawText { w with block := none } (inlinePieces collected)
    | _ => rfl
  | text s =>
    rw [step, text, commentsAt]
    cases hcode : w.code.active with
    | true => rfl
    | false =>
      cases himage : w.image.active with
      | true => rfl
      | false => exact interpreter_pieces plainText w (inlinePieces s)
  | code s =>
    rw [step, inlineCode]
    split <;> rfl
  | html s => exact w.interpreter_html s
  | inlineHtml s => exact w.interpreter_html s
  | softBreak =>
    rw [step, softBreak]
    split <;> rfl
  | _ => rfl

theorem interpreter_run (w : Writer) (es : List Event) :
    (w.run es).1.interpreter = w.interpreter.serve ((w.comments es).map .comment) := by
  induction es generalizing w with
  | nil => rfl
  | cons e es ih =>
    calc (w.run (e :: es)).1.interpreter
      _ = (w.step e).1.interpreter.serve ((comments (w.step e).1 es).map .comment) := ih (w.step e).1
      _ = w.interpreter.serve ((w.comments (e :: es)).map .comment) := by
        rw [interpreter_step, comments, List.map_append, Interpreter.serve, Interpreter.serve, Interpreter.serve,
          List.foldl_append]

end Html.Writer
end Markweave
