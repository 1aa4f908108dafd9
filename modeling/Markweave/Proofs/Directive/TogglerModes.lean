import Markweave.Proofs.Directive.Template
import Markweave.Proofs.Text.Lines

namespace Markweave

namespace Text

/-- A segment by its position; behind the last one there is nothing. -/
def segment (sep : Char) (k : Nat) (s : Text) : Text := (List.splitOn sep s)[k]?.getD []

end Text

namespace Directive

open Html (Markup writeAll)

/-- What stands between blanks. -/
def spacedWords (s : Text) : List Text := (List.splitOnP Unicode.isBlank s).filter (· ≠ [])

/-- Nothing stands before a blank or the end. -/
theorem exists_splitOnP_isBlank (s : Text) : ∃ w rest, List.splitOnP Unicode.isBlank s = w :: rest ∧
    (s.head?.all Unicode.isBlank = true ↔ w = []) := by
  cases s with
  | nil => exact ⟨[], [], List.splitOnP_nil, by simp⟩
  | cons c s =>
    rw [List.splitOnP_cons_eq_if_modifyHead]
    split
    · next hc => exact ⟨[], _, rfl, by simp [hc]⟩
    · next hc =>
      obtain ⟨w, rest, he⟩ := List.exists_cons_of_ne_nil (List.splitOnP_ne_nil Unicode.isBlank s)
      exact ⟨c :: w, rest, by rw [he, List.modifyHead_cons], by simp [hc]⟩

theorem words_eq (s : Text) : words s = spacedWords s := by
  have hempty : ∀ ws : List Text, ([] :: ws).filter (· ≠ []) = ws.filter (· ≠ []) := fun ws =>
    List.filter_cons_of_neg (by simp)
  have hword : ∀ (w : Text) (ws : List Text), w ≠ [] → (w :: ws).filter (· ≠ []) = w :: ws.filter (· ≠ []) :=
    fun w ws hw => List.filter_cons_of_pos (by simpa using hw)
  induction s with
  | nil => rfl
  | cons c s ih =>
    obtain ⟨w, rest, he, hw⟩ := exists_splitOnP_isBlank s
    rw [spacedWords, he] at ih
    have hsplit := List.splitOnP_cons_eq_if_modifyHead (p := Unicode.isBlank) c s
    by_cases hc : Unicode.isBlank c = true
    · rw [if_pos hc, he] at hsplit
      rw [words, ih, spacedWords, hsplit, hempty]
      cases (w :: rest).filter (· ≠ []) with
      | nil => exact if_pos hc
      | cons first more => exact if_pos hc
    · rw [if_neg hc, he, List.modifyHead_cons] at hsplit
      rw [words, ih, spacedWords, hsplit, hword (c :: w) rest (List.cons_ne_nil c w)]
      by_cases hstart : w = []
      · rw [hstart, hempty]
        cases rest.filter (· ≠ []) with
        | nil => exact if_neg hc
        | cons first more => exact (if_neg hc).trans (if_pos (hw.mpr hstart))
      · rw [hword w rest hstart]
        exact (if_neg hc).trans (if_neg fun h => hstart (hw.mp h))

theorem target_eq (param : Text) : (TogglerArguments.parse param).target = Text.segment ',' 0 param := by
  rw [TogglerArguments.parse, Text.segment, Text.splitOn_eq]
  split <;> simp [*]

theorem parse_eq (filter : Text) : StyleFilter.parse filter =
    ⟨spacedWords (Text.segment ':' 0 filter), spacedWords (Text.segment ':' 1 filter)⟩ := by
  have hnil : spacedWords [] = [] := rfl
  rw [StyleFilter.parse, Text.segment, Text.segment, Text.splitOn_eq]
  split <;> simp [*, words_eq]

/-- The tags and styles that a comment appends togglers to: in front of the first comma, tags before the first colon
and styles between it and the next. -/
def appendTags (param : Text) : List Text := spacedWords (Text.segment ':' 0 (Text.segment ',' 0 param))

def appendStyles (param : Text) : List Text := spacedWords (Text.segment ':' 1 (Text.segment ',' 0 param))

theorem pairs_parse (param : Text) : (StyleFilter.parse (TogglerArguments.parse param).target).pairs =
    (appendTags param).product (appendStyles param) := by
  rw [target_eq, parse_eq]
  rfl

namespace Interpreter

/-- The same interpreter in another mode. -/
def inMode (i : Interpreter) (mode : TogglerMode) : Interpreter := { i with togglerMode := mode }

/-- The script that appends a toggler to the elements of one tag and style. -/
def appendScript (i : Interpreter) (side : TogglerSide) (param : Text) (pair : Text × Text) : Text :=
  (Template.togglerAppend (match side with | .before => "true" | .after => "false")).fill []
    [i.app, pair.1, pair.2, (TogglerArguments.parse param).widget]

/-- The snippets are the scripts of the pairs. -/
theorem togglerSnippets_eq (i : Interpreter) (param : Text) (side : TogglerSide) :
    ∃ snippet : Text × Text → List Markup,
      i.togglerSnippets param side = ((appendTags param).product (appendStyles param)).map snippet ∧
        ∀ pair, writeAll (snippet pair) = i.appendScript side param pair := by
  rw [← pairs_parse]
  refine ⟨_, rfl, ?_⟩
  intro pair
  cases side with
  | before => exact writeAll_togglerSnippet i.app pair.1 pair.2 (TogglerArguments.parse param).widget "true"
  | after => exact writeAll_togglerSnippet i.app pair.1 pair.2 (TogglerArguments.parse param).widget "false"

theorem changeStyles_inMode (i : Interpreter) (mode : TogglerMode)
    (change : StyleRegistry → List Text → List Text → StyleRegistry) (param : Text) :
    (i.inMode mode).changeStyles change param =
      ((i.changeStyles change param).1, (i.changeStyles change param).2.inMode mode) := by
  unfold changeStyles
  split <;> rfl

/-- Only an appended toggler asks for the mode. -/
theorem render_inMode (i : Interpreter) (mode : TogglerMode) {d : Directive}
    (hd : ∀ side, d.kind ≠ .togglerAppend side) :
    (i.inMode mode).render d = ((i.render d).1, (i.render d).2.inMode mode) := by
  obtain ⟨kind, param⟩ := d
  cases kind with
  | togglerAppend side => exact absurd rfl (hd side)
  | styleSet => exact changeStyles_inMode i mode _ param
  | styleReset => exact changeStyles_inMode i mode _ param
  | _ => rfl

theorem interpret_togglerAppend {raw param : Text} {side : TogglerSide}
    (h : recognize? raw = some ⟨.togglerAppend side, param⟩) (i : Interpreter) :
    i.interpret raw = (i.togglerAppend param side, i) := by
  rw [interpret, h]
  rfl

/-- Without snippets there is nothing to append. -/
theorem togglerAppend_of_nil {i : Interpreter} {param : Text} {side : TogglerSide}
    (h : i.togglerSnippets param side = []) : i.togglerAppend param side = .dropped .missingParameter := by
  rw [togglerAppend_eq, h]
  rfl

theorem togglerAppend_of_concat {i : Interpreter} {param : Text} {side : TogglerSide} {front : List (List Markup)}
    {last : List Markup} (h : i.togglerSnippets param side = front ++ [last]) :
    i.togglerAppend param side = .rendered
      (match i.togglerMode with
        | .keepLast => last
        | .accumulateAll => (front ++ [last]).flatten) := by
  rw [togglerAppend_eq, h, List.getLast?_concat]
  cases i.togglerMode <;> rfl

theorem exists_interpret_inMode (i : Interpreter) {raw : Text}
    (h : ∀ side param, recognize? raw ≠ some ⟨.togglerAppend side, param⟩) :
    ∃ (outcome : Outcome) (j : Interpreter), ∀ mode, (i.inMode mode).interpret raw = (outcome, j.inMode mode) := by
  cases hd : recognize? raw with
  | none =>
    refine ⟨.dropped .unrecognized, i, fun mode => ?_⟩
    rw [interpret, hd]
  | some d =>
    refine ⟨(i.render d).1, (i.render d).2, fun mode => ?_⟩
    rw [interpret, hd]
    exact render_inMode i mode fun side hkind => h side d.param (by rw [hd, ← hkind])

theorem writeAll_flatten_map {snippet : Text × Text → List Markup} {script : Text × Text → Text}
    (h : ∀ pair, writeAll (snippet pair) = script pair) (pairs : List (Text × Text)) :
    writeAll (pairs.map snippet).flatten = pairs.flatMap script := by
  rw [← List.flatMap_def, Html.writeAll, List.flatMap_assoc]
  exact List.flatMap_congr fun pair _ => h pair

/-- The mode is asked for by comments that append togglers and by no others. It never decides whether one of these is
dropped: that is when there is no tag or no style. Otherwise the scripts of all pairs are written, or the last. -/
theorem interpret_inMode (i : Interpreter) (raw : Text) :
    ((∀ side param, recognize? raw ≠ some ⟨.togglerAppend side, param⟩) →
      ∃ (outcome : Outcome) (j : Interpreter), ∀ mode, (i.inMode mode).interpret raw = (outcome, j.inMode mode)) ∧
    ∀ side param, recognize? raw = some ⟨.togglerAppend side, param⟩ →
      let pairs := (appendTags param).product (appendStyles param)
      (∀ mode, ((i.inMode mode).interpret raw).2 = i.inMode mode) ∧
      (∀ mode, ((i.inMode mode).interpret raw).1 = .dropped .missingParameter ↔ pairs = []) ∧
      ∀ front last, pairs = front ++ [last] → ∃ all one,
        ((i.inMode .accumulateAll).interpret raw).1 = .rendered all ∧
        ((i.inMode .keepLast).interpret raw).1 = .rendered one ∧
        writeAll all = pairs.flatMap (i.appendScript side param) ∧
        writeAll one = i.appendScript side param last ∧ writeAll one <:+ writeAll all := by
  constructor
  · exact i.exists_interpret_inMode
  · intro side param h pairs
    obtain ⟨snippet, hsnippets, hwrite⟩ := i.togglerSnippets_eq param side
    have hmode : ∀ mode, (i.inMode mode).togglerSnippets param side = pairs.map snippet := fun _ => hsnippets
    have hrender : ∀ mode front last, pairs = front ++ [last] → ((i.inMode mode).interpret raw).1 = .rendered
        (match mode with
          | .keepLast => snippet last
          | .accumulateAll => (pairs.map snippet).flatten) := by
      intro mode front last hpairs
      have hconcat : pairs.map snippet = front.map snippet ++ [snippet last] := by
        rw [hpairs, List.map_append, List.map_singleton]
      rw [interpret_togglerAppend h, togglerAppend_of_concat ((hmode mode).trans hconcat), hconcat]
      rfl
    refine ⟨?_, ?_, ?_⟩
    · intro mode
      rw [interpret_togglerAppend h]
    · intro mode
      rcases List.eq_nil_or_concat' pairs with hnil | ⟨front, last, hpairs⟩
      · refine iff_of_true ?_ hnil
        rw [interpret_togglerAppend h]
        exact togglerAppend_of_nil ((hmode mode).trans (by rw [hnil, List.map_nil]))
      · refine iff_of_false ?_ (by simp [hpairs])
        rw [hrender mode front last hpairs]
        exact nofun
    · intro front last hpairs
      have hall := writeAll_flatten_map hwrite pairs
      refine ⟨_, _, hrender .accumulateAll front last hpairs, hrender .keepLast front last hpairs, hall, hwrite last,
        ?_⟩
      refine ⟨front.flatMap (i.appendScript side param), ?_⟩
      rw [hall, hpairs, List.flatMap_append, List.flatMap_singleton]
      exact congrArg _ (hwrite last)

/-- A tag that is written twice has its scripts twice; a table of contents does not know of modes. -/
theorem interpret_inMode_repeated_tag :
    recognize? "toggler.before h2 h2:x" = some ⟨.togglerAppend .before, "h2 h2:x"⟩ ∧
    (appendTags "h2 h2:x").product (appendStyles "h2 h2:x") =
        [("h2".toList, "x".toList)] ++ [("h2".toList, "x".toList)] ∧
    (∃ all one,
      (((ofConfig .default).inMode .accumulateAll).interpret "toggler.before h2 h2:x").1 = .rendered all ∧
      (((ofConfig .default).inMode .keepLast).interpret "toggler.before h2 h2:x").1 = .rendered one ∧
      writeAll one <:+ writeAll all) ∧
    (∀ side param, recognize? "TOC" ≠ some ⟨.togglerAppend side, param⟩) ∧
    ∃ (outcome : Outcome) (j : Interpreter), ∀ mode,
      ((ofConfig .default).inMode mode).interpret "TOC" = (outcome, j.inMode mode) := by
  have happend : recognize? "toggler.before h2 h2:x" = some ⟨.togglerAppend .before, "h2 h2:x"⟩ := by decide +kernel
  have hpairs : (appendTags "h2 h2:x").product (appendStyles "h2 h2:x") =
      [("h2".toList, "x".toList)] ++ [("h2".toList, "x".toList)] := by decide +kernel
  have htoc : recognize? "TOC" = some ⟨.toc, []⟩ := by decide +kernel
  have hother : ∀ side param, recognize? "TOC" ≠ some ⟨.togglerAppend side, param⟩ := by
    intro side param h
    cases htoc.symm.trans h
  obtain ⟨all, one, hall, hone, _, _, hsuffix⟩ :=
    ((interpret_inMode (ofConfig .default) "toggler.before h2 h2:x").2 .before "h2 h2:x" happend).2.2 _ _ hpairs
  exact ⟨happend, hpairs, ⟨all, one, hall, hone, hsuffix⟩, hother,
    (interpret_inMode (ofConfig .default) "TOC").1 hother⟩

end Interpreter
end Directive
end Markweave
