import Mathlib.Data.List.Forall2
import Markweave.Proofs.Directive.Grammar
import Markweave.Proofs.Directive.Written
import Markweave.Proofs.Html.Elements
import Markweave.Proofs.Settings
import Markweave.Proofs.Text.Interleaved

namespace Markweave

/-- Texts in the places of the items, and more text behind all. -/
def Interleaved.fillRest {ι : Type} : List (ι × Text) → List Text → Text → Text
  | (_, gap) :: rest, t :: fills, behind => t ++ (gap ++ fillRest rest fills behind)
  | _, _, behind => behind

def Interleaved.fill {ι : Type} (l : Interleaved ι) (fills : List Text) (behind : Text) : Text :=
  l.first ++ fillRest l.rest fills behind

namespace Directive

open Html (Markup writeAll)
open Text (Over)

/-- Who fills a place of a template: the settings, the count of the tables of contents, or the author. -/
inductive Place
  | app
  | stylePrefix
  | tocNumber
  | author
deriving Repr, DecidableEq

/-- Markup and a script behind it, if there is one. -/
structure Template where
  markup : Interleaved Place
  script? : Option (Interleaved Place)

namespace Template

open Place

def closing (tags : Text) : Template := ⟨⟨tags, []⟩, none⟩

def container : Template :=
  ⟨⟨"<div class=\"", [(author, "\" id=\"md-container-"), (author, "\">")]⟩, none⟩

def plainBox : Template := ⟨⟨"<div class=\"", [(author, "\">")]⟩, none⟩

def levelledBox : Template where
  markup :=
    ⟨"<div class=\"", [(author, "\"><div class=\""), (author, "\">"), (author, "</div><div class=\""),
      (author, "\">")]⟩
  script? := none

def toggler : Template where
  markup := ⟨"<div class=\"", [(author, "\" id=\"md-togglerparent-"), (author, "\"></div>")]⟩
  script? :=
    some ⟨[], [(app, ".get(\"UIToggler\").appendToggler(\".md-togglerparent-"),
      (author, "\", \".md-container-"), (author, "\", \""), (author, "\");")]⟩

def togglerAppend (before : Text) : Template where
  markup := ⟨[], []⟩
  script? :=
    some ⟨[], [(app, ".get(\"UIToggler\").appendTogglerForElements(\""), (author, "."), (author, "\", \""),
      (author, "\", " ++ (before ++ ");"))]⟩

def toc : Template where
  markup :=
    ⟨"<div class=\"", [(stylePrefix, "md-toc-container "), (stylePrefix, "md-toc-container-"),
      (tocNumber, "\" id=\""), (stylePrefix, "md-toc-container-"), (tocNumber, "\"></div>")]⟩
  script? :=
    some ⟨[], [(app, ".get(\"Renderer\").addTOCForBlock("), (app, ".$(\"div."), (stylePrefix, "md-toc-container-"),
      (tocNumber, "\"), "), (app, ".$(\"div."), (stylePrefix, "md-toc-container-"),
      (tocNumber, "\").parents(\"div\"), undefined);")]⟩

/-- The template of a directive that a comment spells. Setting styles writes nothing; the halves of a splitter
have no comment. -/
def of? : DirectiveKind → Option Template
  | .boxOpen .plain => some plainBox
  | .boxOpen _ => some levelledBox
  | .boxClose .plain => some (closing "</div>")
  | .boxClose _ => some (closing "</div></div>")
  | .containerOpen => some container
  | .containerClose => some (closing "</div>")
  | .styleSet => some (closing [])
  | .styleReset => some (closing [])
  | .toggler => some toggler
  | .togglerAppend .before => some (togglerAppend "true")
  | .togglerAppend .after => some (togglerAppend "false")
  | .toc => some toc
  | .splitterLeft => none
  | .splitterRight => none

def writeScript (script? : Option (Interleaved Place)) (fills : List Text) : Text :=
  match script? with
  | none => []
  | some script => "<script>" ++ script.fill fills "</script>"

/-- The written template, with texts for the places of the markup and of the script. -/
def fill (t : Template) (markup script : List Text) : Text :=
  t.markup.fill markup (writeScript t.script? script)

end Template

/-- What an author can bring into a script: no quote, no backslash, no bracket and no line end. -/
def isScriptChar (c : Char) : Bool :=
  c.isAlphanum || "-#_;.: \u017F\u212A".toList.contains c

/-- The text of a place: settings fill theirs with what they are, the author with characters of a class, and
nobody with a quote. -/
structure Fits (c : RenderConfig) (toc : UInt64) (allows : Char → Prop) (place : Place) (t : Text) : Prop where
  quote : '"' ∉ t
  app : place = .app → t = c.app
  stylePrefix : place = .stylePrefix → t = c.stylePrefix
  tocNumber : place = .tocNumber → t = UInt64.text toc
  author : place = .author → Over allows t

/-- The places of a template are filled: the author's texts in scripts are of script characters. -/
structure Template.Filled (t : Template) (c : RenderConfig) (toc : UInt64) (markup script : List Text) : Prop where
  markup : List.Forall₂ (Fits c toc fun _ => True) t.markup.items markup
  script : List.Forall₂ (Fits c toc (isScriptChar · = true)) (t.script?.elim [] Interleaved.items) script

/-- The interpreter after some comments. -/
def Interpreter.after (i : Interpreter) (comments : List Text) : Interpreter :=
  comments.foldl (fun i raw => (i.interpret raw).2) i

section Recognized

variable {raw : Text} {d : Directive}

/-- A directive has the kind of some form and a parameter of its characters. -/
theorem exists_form_of_recognize? (h : recognize? raw = some d) :
    ∃ f ∈ forms, d.kind ∈ f.keywords.map Prod.snd ∧ ∀ c ∈ d.param, f.allows c = true := by
  obtain ⟨f, hf, hread⟩ := List.exists_of_findSome?_eq_some h
  obtain ⟨keyword, rest, hmem, _, _, hall⟩ := Form.exists_keyword_of_read? hread
  exact ⟨f, hf, List.mem_map_of_mem hmem, List.all_eq_true.mp hall⟩

theorem quote_notMem_param (h : recognize? raw = some d) : '"' ∉ d.param := by
  obtain ⟨f, hf, _, hall⟩ := exists_form_of_recognize? h
  have hforms : ∀ f ∈ forms, f.allows '"' = false := by decide +kernel
  intro hquote
  exact Bool.false_ne_true ((hforms f hf).symm.trans (hall '"' hquote))

end Recognized

section Fill

open Interpreter

theorem write_openDiv (classes : Text) : (openDiv classes []).write = "<div class=\"" ++ (classes ++ "\">") := by
  simp only [openDiv, Markup.write, Html.writeAttributes, List.flatMap_cons, List.flatMap_nil, Html.Attribute.of,
    Html.Attribute.write, List.append_assoc]
  rfl

theorem write_openDiv_id (classes id : Text) :
    (openDiv classes [.of "id" id]).write = "<div class=\"" ++ (classes ++ ("\" id=\"" ++ (id ++ "\">"))) := by
  simp only [openDiv, Markup.write, Html.writeAttributes, List.flatMap_cons, List.flatMap_nil, Html.Attribute.of,
    Html.Attribute.write, List.append_assoc]
  rfl

theorem writeAll_cons (m : Markup) (ms : List Markup) : writeAll (m :: ms) = m.write ++ writeAll ms :=
  List.flatMap_cons

theorem writeAll_script (source : Text) : writeAll (script source) = "<script>" ++ (source ++ "</script>") := rfl

theorem writeAll_plainBox (classes : Text) :
    writeAll [openDiv classes []] = Template.plainBox.fill [classes] [] := by
  simp only [writeAll_cons, write_openDiv, List.append_assoc]
  rfl

theorem writeAll_levelledBox (outer head label inner : Text) :
    writeAll [openDiv outer [], openDiv head [], .verbatim label, closeDiv, openDiv inner []] =
      Template.levelledBox.fill [outer, head, label, inner] [] := by
  simp only [writeAll_cons, write_openDiv, List.append_assoc]
  rfl

theorem writeAll_container (classes name : Text) :
    writeAll [openDiv classes [.of "id" ("md-container-" ++ name)]] =
      Template.container.fill [classes, name] [] := by
  simp only [writeAll_cons, write_openDiv_id, List.append_assoc]
  rfl

/-- Literals that stand side by side are one literal. -/
theorem literal_append (a b : String) (t : Text) : a.toList ++ (b.toList ++ t) = (a ++ b).toList ++ t := by
  rw [String.toList_append, List.append_assoc]

theorem literal_append_literal (a b : String) : a.toList ++ b.toList = (a ++ b).toList :=
  String.toList_append.symm

theorem write_closeDiv : closeDiv.write = "</div>".toList := rfl

theorem writeAll_toggler (app classes id widget : Text) :
    writeAll (openDiv classes [.of "id" ("md-togglerparent-" ++ id)] :: closeDiv ::
        script (app ++ ".get(\"UIToggler\").appendToggler(\"." ++ ("md-togglerparent-" ++ id) ++
          "\", \".md-container-" ++ id ++ "\", \"" ++ widget ++ "\");")) =
      Template.toggler.fill [classes, id] [app, id, id, widget] := by
  calc
    _ = "<div class=\"".toList ++ (classes ++ ("\" id=\"md-togglerparent-".toList ++ (id ++ ("\"></div>".toList ++
          ("<script>".toList ++ ([] ++ (app ++ (".get(\"UIToggler\").appendToggler(\".md-togglerparent-".toList ++
            (id ++ ("\", \".md-container-".toList ++ (id ++ ("\", \"".toList ++ (widget ++
              ("\");".toList ++ "</script>".toList)))))))))))))) := by
      simp only [writeAll_cons, write_openDiv_id, write_closeDiv, writeAll_script, List.append_assoc,
        List.nil_append, literal_append, literal_append_literal, String.reduceAppend]
    _ = Template.toggler.fill [classes, id] [app, id, id, widget] := rfl

theorem writeAll_togglerSnippet (app tag style widget before : Text) :
    writeAll (script (app ++ ".get(\"UIToggler\").appendTogglerForElements(\"" ++ tag ++ "." ++ style ++
        "\", \"" ++ widget ++ "\", " ++ before ++ ");")) =
      (Template.togglerAppend before).fill [] [app, tag, style, widget] := by
  calc
    _ = [] ++ ("<script>".toList ++ ([] ++ (app ++ (".get(\"UIToggler\").appendTogglerForElements(\"".toList ++
          (tag ++ (".".toList ++ (style ++ ("\", \"".toList ++ (widget ++
            ("\", ".toList ++ (before ++ ");".toList) ++ "</script>".toList)))))))))) := by
      simp only [writeAll_script, List.append_assoc, List.nil_append, literal_append_literal,
        String.reduceAppend]
    _ = (Template.togglerAppend before).fill [] [app, tag, style, widget] := rfl

theorem writeAll_toc (i : Interpreter) :
    writeAll i.toc =
      Template.toc.fill [i.stylePrefix, i.stylePrefix, UInt64.text i.nextToc, i.stylePrefix, UInt64.text i.nextToc]
        [i.app, i.app, i.stylePrefix, UInt64.text i.nextToc, i.app, i.stylePrefix, UInt64.text i.nextToc] := by
  generalize hn : UInt64.text i.nextToc = n
  calc
    _ = "<div class=\"".toList ++ (i.stylePrefix ++ ("md-toc-container ".toList ++ (i.stylePrefix ++
          ("md-toc-container-".toList ++ (n ++ ("\" id=\"".toList ++ (i.stylePrefix ++ ("md-toc-container-".toList ++
            (n ++ ("\"></div>".toList ++ ("<script>".toList ++ ([] ++ (i.app ++
              (".get(\"Renderer\").addTOCForBlock(".toList ++ (i.app ++ (".$(\"div.".toList ++ (i.stylePrefix ++
                ("md-toc-container-".toList ++ (n ++ ("\"), ".toList ++ (i.app ++ (".$(\"div.".toList ++
                  (i.stylePrefix ++ ("md-toc-container-".toList ++ (n ++
                    ("\").parents(\"div\"), undefined);".toList ++ "</script>".toList)))))))))))))))))))))))))) := by
      simp only [toc, hn, writeAll_cons, write_openDiv_id, write_closeDiv, writeAll_script, List.append_assoc,
        List.nil_append, literal_append, literal_append_literal, String.reduceAppend]
    _ = Template.toc.fill [i.stylePrefix, i.stylePrefix, n, i.stylePrefix, n]
          [i.app, i.app, i.stylePrefix, n, i.app, i.stylePrefix, n] := rfl

end Fill

theorem isScriptChar_of_allowsFilter {c : Char} (h : allowsFilter c = true) (hc : c ≠ ',') :
    isScriptChar c = true := by
  rw [isScriptChar, Bool.or_eq_true]
  simp only [allowsFilter, allowsName, Bool.or_eq_true, beq_iff_eq] at h
  by_cases halnum : c.isAlphanum = true
  · exact .inl halnum
  · right
    rcases h with (((((((((h | rfl) | rfl) | rfl) | rfl) | rfl) | rfl) | rfl) | rfl) | rfl) | rfl
    all_goals first | exact absurd h halnum | exact absurd rfl hc | decide

theorem quote_notMem_of_script {t : Text} (h : Over (isScriptChar · = true) t) : '"' ∉ t :=
  fun hq => absurd (h '"' hq) (by decide)

/-- The arguments of a toggler have no comma left. -/
theorem script_toggler_arguments {param : Text} (hp : ∀ c ∈ param, allowsFilter c = true) :
    Over (isScriptChar · = true) (TogglerArguments.parse param).target ∧
      Over (isScriptChar · = true) (TogglerArguments.parse param).widget := by
  apply over_parse_segments
  · intro segment hs c hc
    apply isScriptChar_of_allowsFilter (hp c (Text.mem_of_mem_splitOn hs hc))
    rintro rfl
    exact Text.sep_notMem_of_mem_splitOn hs hc
  · exact List.all_eq_true.mp (by decide)

/-- The kinds whose parameters come into scripts. -/
def scripts : DirectiveKind → Bool
  | .toggler => true
  | .togglerAppend _ => true
  | _ => false

theorem allowsFilter_of_recognize? {raw : Text} {d : Directive} (h : recognize? raw = some d)
    (hd : scripts d.kind = true) : ∀ c ∈ d.param, allowsFilter c = true := by
  obtain ⟨f, hf, hkind, hall⟩ := exists_form_of_recognize? h
  have hname : ∀ c, allowsName c = true → allowsFilter c = true := by
    intro c hc
    simp [allowsFilter, hc]
  have hscripts : ∀ {keywords : List (Text × DirectiveKind)}, (keywords.map Prod.snd).all (!scripts ·) = true →
      d.kind ∉ keywords.map Prod.snd := by
    intro keywords hnone hmem
    have hkind := List.all_eq_true.mp hnone d.kind hmem
    rw [hd] at hkind
    cases hkind
  simp only [forms, List.mem_cons, List.not_mem_nil, or_false] at hf
  rcases hf with rfl | rfl | rfl | rfl | rfl
  · exact absurd hkind (hscripts (by decide))
  · exact absurd hkind (hscripts (by decide))
  · exact fun c hc => hname c (hall c hc)
  · exact hall
  · exact fun c hc => hname c (hall c hc)

/-- An interpreter of a configuration, in which no style has a quote. -/
structure Interpreter.Quoteless (c : RenderConfig) (i : Interpreter) : Prop where
  keeps : i.Over (· ≠ '"') c.app
  stylePrefix : i.stylePrefix = c.stylePrefix

section Filled

open Interpreter

variable {c : RenderConfig} {toc : UInt64} {allows : Char → Prop}

theorem fits_author {t : Text} (hq : '"' ∉ t) (ht : Over allows t) : Fits c toc allows .author t :=
  ⟨hq, nofun, nofun, nofun, fun _ => ht⟩

theorem fits_app (h : '"' ∉ c.app) : Fits c toc allows .app c.app := ⟨h, fun _ => rfl, nofun, nofun, nofun⟩

theorem fits_stylePrefix (h : '"' ∉ c.stylePrefix) : Fits c toc allows .stylePrefix c.stylePrefix :=
  ⟨h, nofun, fun _ => rfl, nofun, nofun⟩

theorem fits_tocNumber : Fits c toc allows .tocNumber (UInt64.text toc) :=
  ⟨UInt64.notMem_text (by decide) toc, nofun, nofun, fun _ => rfl, nofun⟩

/-- What is written is the template with its places filled, once or several times over or not at all. -/
def Template.Writes (t : Template) (c : RenderConfig) (toc : UInt64) (html : Text) : Prop :=
  ∃ snippets : List (List Text × List Text),
    html = snippets.flatMap (fun s => t.fill s.1 s.2) ∧ ∀ s ∈ snippets, t.Filled c toc s.1 s.2

theorem Template.writes_nothing (t : Template) : t.Writes c toc [] := ⟨[], rfl, nofun⟩

theorem Template.writes_one {t : Template} {markup script : List Text} (h : t.Filled c toc markup script) :
    t.Writes c toc (t.fill markup script) := by
  refine ⟨[(markup, script)], (List.flatMap_singleton _ _).symm, ?_⟩
  intro s hs
  rw [List.mem_singleton] at hs
  subst hs
  exact h

theorem Template.Writes.append {t : Template} {a b : Text} (ha : t.Writes c toc a) (hb : t.Writes c toc b) :
    t.Writes c toc (a ++ b) := by
  obtain ⟨first, rfl, hfirst⟩ := ha
  obtain ⟨second, rfl, hsecond⟩ := hb
  exact ⟨first ++ second, List.flatMap_append.symm, List.forall_mem_append.mpr ⟨hfirst, hsecond⟩⟩

theorem Template.writes_flatten {t : Template} {parts : List (List Markup)}
    (h : ∀ ms ∈ parts, t.Writes c toc (writeAll ms)) : t.Writes c toc (writeAll parts.flatten) := by
  induction parts with
  | nil => exact t.writes_nothing
  | cons ms parts ih =>
    rw [List.forall_mem_cons] at h
    rw [List.flatten_cons, Html.writeAll_append]
    exact h.1.append (ih h.2)

section Render

variable {i : Interpreter} (hi : i.Quoteless c)
include hi

theorem author_classes (tag : Text) : Fits c toc (fun _ => True) .author (i.styles.classes tag) :=
  fits_author (fun h => hi.keeps.styles.classes (by decide) tag _ h rfl) fun _ _ => trivial

theorem author_classList {tag extra : Text} (h : '"' ∉ extra) :
    Fits c toc (fun _ => True) .author (i.classList tag extra) := by
  have hextra : Over (· ≠ '"') extra := by
    rintro c hc rfl
    exact h hc
  exact fits_author (fun h => over_classList hi.keeps.styles (by decide) hextra _ h rfl) fun _ _ => trivial

omit hi in
theorem author_text {t : Text} (h : '"' ∉ t) : Fits c toc (fun _ => True) .author t :=
  fits_author h fun _ _ => trivial

omit hi in
theorem author_script {t : Text} (h : Over (isScriptChar · = true) t) :
    Fits c toc (isScriptChar · = true) .author t := fits_author (quote_notMem_of_script h) h

theorem openBox_writes (level : BoxLevel) {label : Text} (hl : '"' ∉ label) :
    ∃ t, Template.of? (.boxOpen level) = some t ∧ t.Writes c toc (writeAll (i.openBox level label)) := by
  have hplain : ∀ tag, Fits c toc (fun _ => True) .author (i.styles.classes tag) := author_classes hi
  have hlabel : Fits c toc (fun _ => True) .author label := author_text hl
  have hlevelled : ∀ outer head inner, Template.levelledBox.Writes c toc
      (writeAll [openDiv (i.styles.classes outer) [], openDiv (i.styles.classes head) [], .verbatim label, closeDiv,
        openDiv (i.styles.classes inner) []]) := by
    intro outer head inner
    rw [writeAll_levelledBox]
    exact Template.writes_one
      ⟨.cons (hplain outer) (.cons (hplain head) (.cons hlabel (.cons (hplain inner) .nil))), .nil⟩
  cases level with
  | plain =>
    refine ⟨Template.plainBox, rfl, ?_⟩
    rw [openBox, writeAll_plainBox]
    exact Template.writes_one ⟨.cons (author_classList hi hl) .nil, .nil⟩
  | info => exact ⟨Template.levelledBox, rfl, hlevelled _ _ _⟩
  | warn => exact ⟨Template.levelledBox, rfl, hlevelled _ _ _⟩
  | alert => exact ⟨Template.levelledBox, rfl, hlevelled _ _ _⟩

theorem openContainer_writes {name : Text} (hn : '"' ∉ name) :
    Template.container.Writes c toc (writeAll (i.openContainer name)) := by
  have hid : '"' ∉ "md-container-" ++ name := List.not_mem_append (by decide) hn
  rw [openContainer, writeAll_container]
  exact Template.writes_one ⟨.cons (author_classList hi hid) (.cons (author_text hn) .nil), .nil⟩

variable (happ : '"' ∉ c.app)
include happ

theorem toggler_writes {param : Text} (hp : ∀ c ∈ param, allowsFilter c = true) :
    Template.toggler.Writes c toc (writeAll (i.toggler param).html) := by
  obtain ⟨htarget, hwidget⟩ := script_toggler_arguments hp
  have hid : Over (isScriptChar · = true) (TogglerArguments.parse param).compactTarget :=
    fun ch h => htarget ch (List.mem_filter.mp h).1
  have hquote := quote_notMem_of_script hid
  have hparent : '"' ∉ "md-togglerparent-" ++ (TogglerArguments.parse param).compactTarget :=
    List.not_mem_append (by decide) hquote
  unfold toggler
  dsimp only
  split
  · exact Template.writes_nothing _
  · rw [Outcome.html, writeAll_toggler, hi.keeps.app]
    exact Template.writes_one
      ⟨.cons (author_classList hi hparent) (.cons (author_text hquote) .nil),
        .cons (fits_app happ)
          (.cons (author_script hid) (.cons (author_script hid) (.cons (author_script hwidget) .nil)))⟩

theorem togglerSnippets_writes {param : Text} (hp : ∀ c ∈ param, allowsFilter c = true) (side : TogglerSide) :
    ∃ t, Template.of? (.togglerAppend side) = some t ∧
      ∀ snippet ∈ i.togglerSnippets param side, t.Writes c toc (writeAll snippet) := by
  obtain ⟨htarget, hwidget⟩ := script_toggler_arguments hp
  obtain ⟨htags, hstyles⟩ := over_parse_filter htarget
  have hwrites : ∀ before tag style : Text, Over (isScriptChar · = true) tag → Over (isScriptChar · = true) style →
      (Template.togglerAppend before).Writes c toc (writeAll (script (i.app ++
        ".get(\"UIToggler\").appendTogglerForElements(\"" ++ tag ++ "." ++ style ++ "\", \"" ++
          (TogglerArguments.parse param).widget ++ "\", " ++ before ++ ");"))) := by
    intro before tag style htag hstyle
    rw [writeAll_togglerSnippet, hi.keeps.app]
    exact Template.writes_one ⟨.nil, .cons (fits_app happ) (.cons (author_script htag)
      (.cons (author_script hstyle) (.cons (author_script hwidget) .nil)))⟩
  have hpair : ∀ p ∈ (StyleFilter.parse (TogglerArguments.parse param).target).pairs,
      Over (isScriptChar · = true) p.1 ∧ Over (isScriptChar · = true) p.2 := by
    intro p hp
    obtain ⟨tag, htag, hp⟩ := List.mem_flatMap.mp hp
    obtain ⟨style, hstyle, rfl⟩ := List.mem_map.mp hp
    exact ⟨htags tag htag, hstyles style hstyle⟩
  cases side with
  | before =>
    refine ⟨Template.togglerAppend "true", rfl, ?_⟩
    intro snippet hsnippet
    obtain ⟨p, hp, rfl⟩ := List.mem_map.mp hsnippet
    exact hwrites "true" _ _ (hpair p hp).1 (hpair p hp).2
  | after =>
    refine ⟨Template.togglerAppend "false", rfl, ?_⟩
    intro snippet hsnippet
    obtain ⟨p, hp, rfl⟩ := List.mem_map.mp hsnippet
    exact hwrites "false" _ _ (hpair p hp).1 (hpair p hp).2

theorem togglerAppend_writes {param : Text} (hp : ∀ c ∈ param, allowsFilter c = true) (side : TogglerSide) :
    ∃ t, Template.of? (.togglerAppend side) = some t ∧
      t.Writes c toc (writeAll (i.togglerAppend param side).html) := by
  obtain ⟨t, ht, hall⟩ : ∃ t, Template.of? (.togglerAppend side) = some t ∧
      ∀ snippet ∈ i.togglerSnippets param side, t.Writes c toc (writeAll snippet) :=
    togglerSnippets_writes hi happ hp side
  refine ⟨t, ht, ?_⟩
  rw [togglerAppend_eq]
  split
  · exact t.writes_nothing
  · next last hlast =>
    split
    · exact hall last (List.mem_of_getLast? hlast)
    · exact Template.writes_flatten hall

omit happ in
theorem toc_writes (hstyle : '"' ∉ c.stylePrefix) (happ : '"' ∉ c.app) :
    Template.toc.Writes c i.nextToc (writeAll i.toc) := by
  rw [writeAll_toc, hi.keeps.app, hi.stylePrefix]
  have hprefix : ∀ {allows}, Fits c i.nextToc allows .stylePrefix c.stylePrefix := fits_stylePrefix hstyle
  have happ : ∀ {allows}, Fits c i.nextToc allows .app c.app := fits_app happ
  have hnumber : ∀ {allows}, Fits c i.nextToc allows .tocNumber (UInt64.text i.nextToc) := fits_tocNumber
  exact Template.writes_one
    ⟨.cons hprefix (.cons hprefix (.cons hnumber (.cons hprefix (.cons hnumber .nil)))),
      .cons happ (.cons happ (.cons hprefix (.cons hnumber (.cons happ (.cons hprefix (.cons hnumber .nil))))))⟩

omit hi happ in
theorem closing_writes {ms : List Markup} {tags : Text} (h : writeAll ms = tags) :
    (Template.closing tags).Writes c toc (writeAll ms) := by
  rw [h]
  have hfill : (Template.closing tags).fill [] [] = tags := List.append_nil tags
  have hone : (Template.closing tags).Writes c toc ((Template.closing tags).fill [] []) :=
    Template.writes_one ⟨.nil, .nil⟩
  rwa [hfill] at hone

omit hi happ in
theorem changeStyles_html (change : StyleRegistry → List Text → List Text → StyleRegistry) (param : Text) :
    (i.changeStyles change param).1.html = [] := by
  unfold changeStyles
  split <;> rfl

/-- A directive writes its template, filled: the halves of a splitter are no comment's. -/
theorem render_writes (hstyle : '"' ∉ c.stylePrefix) {d : Directive} (hq : '"' ∉ d.param)
    (hscript : scripts d.kind = true → ∀ c ∈ d.param, allowsFilter c = true)
    (hkind : (Template.of? d.kind).isSome = true) :
    ∃ t, Template.of? d.kind = some t ∧ t.Writes c i.nextToc (writeAll (i.render d).1.html) := by
  obtain ⟨kind, param⟩ := d
  cases kind with
  | boxOpen level => exact openBox_writes hi level hq
  | boxClose level =>
    cases level with
    | plain => exact ⟨_, rfl, closing_writes rfl⟩
    | info => exact ⟨_, rfl, closing_writes rfl⟩
    | warn => exact ⟨_, rfl, closing_writes rfl⟩
    | alert => exact ⟨_, rfl, closing_writes rfl⟩
  | containerOpen => exact ⟨_, rfl, openContainer_writes hi hq⟩
  | containerClose => exact ⟨_, rfl, closing_writes rfl⟩
  | styleSet => exact ⟨_, rfl, closing_writes (congrArg writeAll (changeStyles_html _ param))⟩
  | styleReset => exact ⟨_, rfl, closing_writes (congrArg writeAll (changeStyles_html _ param))⟩
  | toggler => exact ⟨_, rfl, toggler_writes hi happ (hscript rfl)⟩
  | togglerAppend side => exact togglerAppend_writes hi happ (hscript rfl) side
  | toc => exact ⟨_, rfl, toc_writes hi hstyle happ⟩
  | splitterLeft => exact absurd hkind Bool.false_ne_true
  | splitterRight => exact absurd hkind Bool.false_ne_true

end Render
end Filled

theorem isSome_of?_of_recognize? {raw : Text} {d : Directive} (h : recognize? raw = some d) :
    (Template.of? d.kind).isSome = true := by
  have hforms : ∀ f ∈ forms, ∀ kind ∈ f.keywords.map Prod.snd, (Template.of? kind).isSome = true := by
    decide +kernel
  obtain ⟨f, hf, hkind, _⟩ := exists_form_of_recognize? h
  exact hforms f hf d.kind hkind

namespace Interpreter

variable {c : RenderConfig} {i : Interpreter}

theorem changeStyles_stylePrefix (change : StyleRegistry → List Text → List Text → StyleRegistry) (param : Text) :
    (i.changeStyles change param).2.stylePrefix = i.stylePrefix := by
  unfold changeStyles
  split <;> rfl

theorem render_stylePrefix (d : Directive) : (i.render d).2.stylePrefix = i.stylePrefix := by
  obtain ⟨kind, param⟩ := d
  cases kind with
  | styleSet => exact changeStyles_stylePrefix _ param
  | styleReset => exact changeStyles_stylePrefix _ param
  | _ => rfl

theorem interpret_stylePrefix (raw : Text) : (i.interpret raw).2.stylePrefix = i.stylePrefix := by
  unfold interpret
  split
  · next d _ => exact render_stylePrefix d
  · rfl

theorem quoteless_ofConfig (hstyle : '"' ∉ c.stylePrefix) : (ofConfig c).Quoteless c := by
  refine ⟨Html.over_ofConfig ?_ ?_, rfl⟩
  · rintro d hd rfl
    exact absurd hd (by decide)
  · rintro d hd rfl
    exact hstyle hd

/-- No comment brings a quote into a style. -/
theorem Quoteless.interpret (hi : i.Quoteless c) (raw : Text) : (i.interpret raw).2.Quoteless c := by
  refine ⟨interpret_over hi.keeps ?_, (interpret_stylePrefix raw).trans hi.stylePrefix⟩
  rintro d hd ch hch rfl
  exact quote_notMem_param hd hch

theorem Quoteless.after (hi : i.Quoteless c) (comments : List Text) : (i.after comments).Quoteless c := by
  induction comments generalizing i with
  | nil => exact hi
  | cons raw comments ih => exact ih (hi.interpret raw)

end Interpreter

/-- Whatever comments came before, what a comment writes is the template of its directive, filled: every quote
is one of the template, and in scripts the author's texts are of script characters. -/
theorem interpret_writes {c : RenderConfig} (hstyle : c.stylePrefix.all Settings.isPrefixChar = true)
    (happ : Settings.isDottedIdentifier c.app = true) (earlier : List Text) (raw : Text) :
    let i := (Interpreter.ofConfig c).after earlier
    (recognize? raw = none → (i.interpret raw).1.html = []) ∧
      ∀ d, recognize? raw = some d → ∃ t, Template.of? d.kind = some t ∧
        t.Writes c i.nextToc (writeAll (i.interpret raw).1.html) := by
  have hprefix := Settings.notMem_stylePrefix hstyle (q := '"') (by decide)
  have happ := Settings.notMem_app happ (q := '"') (by decide) (by decide)
  have hi := (Interpreter.quoteless_ofConfig hprefix).after earlier
  intro i
  unfold Interpreter.interpret
  constructor
  · intro h
    rw [h]
    rfl
  · intro d h
    rw [h]
    exact render_writes hi happ hprefix (quote_notMem_param h) (allowsFilter_of_recognize? h)
      (isSome_of?_of_recognize? h)

/-- What a toggler writes when a comment before it has set a style for its anchor. -/
def styledTogglerHtml : Text :=
  "<div class=\"jsh-md-togglerparent red md-togglerparent-Ab\" id=\"md-togglerparent-Ab\"></div>" ++
    "<script>jshAppBase.get(\"UIToggler\").appendToggler(\".md-togglerparent-Ab\", " ++
    "\".md-container-Ab\", \"slide\");</script>"

theorem interpret_writes_styled_toggler :
    recognize? "TOGGLER Ab,slide" = some ⟨.toggler, "Ab,slide"⟩ ∧
      ∃ t, Template.of? .toggler = some t ∧ t.Writes .default 1 styledTogglerHtml := by
  have hrecognize : recognize? "TOGGLER Ab,slide" = some ⟨.toggler, "Ab,slide"⟩ := by decide +kernel
  have hhtml : writeAll
      (((Interpreter.ofConfig .default).after ["STYLE togglerparent:red"]).interpret "TOGGLER Ab,slide").1.html =
        styledTogglerHtml := by decide +kernel
  have hwrites := (interpret_writes (c := .default) (by decide) (by decide) ["STYLE togglerparent:red"]
    "TOGGLER Ab,slide").2 ⟨.toggler, "Ab,slide"⟩ hrecognize
  rw [hhtml] at hwrites
  exact ⟨hrecognize, hwrites⟩

end Directive
end Markweave
