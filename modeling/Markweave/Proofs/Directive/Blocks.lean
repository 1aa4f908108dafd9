import Markweave.Proofs.Directive.Grammar
import Markweave.Proofs.Directive.Template
import Markweave.Proofs.Html.TagsOnly
import Markweave.Source.BlockComment

namespace Markweave

namespace Html

/-- A tag begins with the mark, which ends with the whole name. -/
def beginsTag (mark s : Text) : Bool := ((Text.dropStart? mark s).bind List.head?).any endsName

/-- How many `div` elements are open behind a text when so many are open before it. There is no answer when one is
closed that is not open. -/
def openDivs? : Nat → Text → Option Nat
  | n, [] => some n
  | n, c :: s =>
    if beginsTag "<div" (c :: s) then openDivs? (n + 1) s
    else if beginsTag "</div" (c :: s) then
      match n with
      | 0 => none
      | n + 1 => openDivs? n s
    else openDivs? n s

theorem openDivs?_append_of_notMem {a : Text} (ha : '<' ∉ a) (n : Nat) (s : Text) :
    openDivs? n (a ++ s) = openDivs? n s := by
  induction a with
  | nil => rfl
  | cons c a ih =>
    simp only [List.mem_cons, not_or] at ha
    have hnot : ∀ mark : Text, mark.head? = some '<' → beginsTag mark (c :: (a ++ s)) = false := by
      intro mark hmark
      obtain ⟨t, rfl⟩ := List.head?_eq_some_iff.mp hmark
      rw [beginsTag, Text.dropStart?_of_head_ne ha.1]
      rfl
    rw [List.cons_append, openDivs?.eq_def]
    simp only [hnot "<div" rfl, hnot "</div" rfl, Bool.false_eq_true, if_false]
    exact ih ha.2

theorem openDivs?_opening {t : Text} (ht : '<' ∉ t) (n : Nat) (s : Text) :
    openDivs? n ("<div ".toList ++ (t ++ s)) = openDivs? (n + 1) s := by
  have hdiv : openDivs? n ("<div ".toList ++ (t ++ s)) = openDivs? (n + 1) ("div ".toList ++ (t ++ s)) := rfl
  rw [hdiv, openDivs?_append_of_notMem (by decide), openDivs?_append_of_notMem ht]

theorem openDivs?_closing (n : Nat) (s : Text) : openDivs? (n + 1) ("</div>".toList ++ s) = openDivs? n s := by
  have hdiv : openDivs? (n + 1) ("</div>".toList ++ s) = openDivs? n ("/div>".toList ++ s) := rfl
  rw [hdiv, openDivs?_append_of_notMem (by decide)]

end Html

namespace Directive

open Html (writeAll openDivs?)
open Interpreter
open Source (BlockForm)

/-- What a directive opens: the directive that closes it again, and how many elements that takes. -/
inductive Opens : DirectiveKind → DirectiveKind → Nat → Prop
  | box : Opens (.boxOpen .plain) (.boxClose .plain) 1
  | levelledBox {level : BoxLevel} (h : level ≠ .plain) : Opens (.boxOpen level) (.boxClose level) 2
  | container : Opens .containerOpen .containerClose 1

theorem exists_opens_of_closeToken? {kind : DirectiveKind} {close : Text} (h : kind.closeToken? = some close) :
    ∃ closing depth, Opens kind closing depth ∧ recognize? close = some ⟨closing, []⟩ := by
  cases kind with
  | boxOpen level =>
    obtain rfl := Option.some.inj h
    cases level with
    | plain => exact ⟨_, _, .box, by decide +kernel⟩
    | info => exact ⟨_, _, .levelledBox nofun, by decide +kernel⟩
    | warn => exact ⟨_, _, .levelledBox nofun, by decide +kernel⟩
    | alert => exact ⟨_, _, .levelledBox nofun, by decide +kernel⟩
  | containerOpen =>
    obtain rfl := Option.some.inj h
    exact ⟨_, _, .container, by decide +kernel⟩
  | _ => cases h

/-- The closing directive changes nothing and writes closing tags only. -/
theorem render_closing {opening closing : DirectiveKind} {depth : Nat} (h : Opens opening closing depth)
    (i : Interpreter) (param : Text) :
    writeAll (i.render ⟨closing, param⟩).1.html = (List.replicate depth "</div>".toList).flatten ∧
      (i.render ⟨closing, param⟩).2 = i := by
  cases h with
  | box => exact ⟨rfl, rfl⟩
  | @levelledBox level hlevel =>
    cases level with
    | plain => exact absurd rfl hlevel
    | info => exact ⟨rfl, rfl⟩
    | warn => exact ⟨rfl, rfl⟩
    | alert => exact ⟨rfl, rfl⟩
  | container => exact ⟨rfl, rfl⟩

section Opening

variable {i : Interpreter} (hi : i.styles.Over (· ≠ '<'))

theorem openDivs?_openDiv {classes : Text} (hc : '<' ∉ classes) (n : Nat) (s : Text) :
    openDivs? n ((openDiv classes []).write ++ s) = openDivs? (n + 1) s := by
  have hrest : '<' ∉ "class=\"".toList ++ (classes ++ "\">".toList) :=
    List.not_mem_append (by decide) (List.not_mem_append hc (by decide))
  rw [write_openDiv]
  exact Html.openDivs?_opening hrest n s

theorem openDivs?_openDiv_id {classes id : Text} (hc : '<' ∉ classes) (hid : '<' ∉ id) (n : Nat) (s : Text) :
    openDivs? n ((openDiv classes [.of "id" id]).write ++ s) = openDivs? (n + 1) s := by
  have hrest : '<' ∉ "class=\"".toList ++ (classes ++ ("\" id=\"".toList ++ (id ++ "\">".toList))) :=
    List.not_mem_append (by decide) (List.not_mem_append hc (List.not_mem_append (by decide)
      (List.not_mem_append hid (by decide))))
  rw [write_openDiv_id]
  exact Html.openDivs?_opening hrest n s

include hi

theorem notMem_classes (tag : Text) : '<' ∉ i.styles.classes tag :=
  fun h => hi.classes (by decide) tag '<' h rfl

theorem notMem_classList {tag extra : Text} (he : '<' ∉ extra) : '<' ∉ i.classList tag extra :=
  fun h => over_classList hi (by decide) (.of_notMem (fun _ hc => hc) he) '<' h rfl

/-- The opening directive leaves the elements open that the closing one closes, and closes none from outside. -/
theorem openDivs?_render {opening closing : DirectiveKind} {depth : Nat} (h : Opens opening closing depth)
    {param : Text} (hp : '<' ∉ param) (n : Nat) :
    openDivs? n (writeAll (i.render ⟨opening, param⟩).1.html) = some (n + depth) := by
  have hlevelled : ∀ outer head inner, openDivs? n (writeAll [openDiv (i.styles.classes outer) [],
      openDiv (i.styles.classes head) [], .verbatim param, closeDiv, openDiv (i.styles.classes inner) []]) =
        some (n + 2) := by
    intro outer head inner
    simp only [writeAll_cons, write_closeDiv]
    rw [openDivs?_openDiv (notMem_classes hi outer), openDivs?_openDiv (notMem_classes hi head)]
    change openDivs? (n + 1 + 1) (param ++ _) = _
    rw [Html.openDivs?_append_of_notMem hp, Html.openDivs?_closing, openDivs?_openDiv (notMem_classes hi inner)]
    rfl
  cases h with
  | box =>
    change openDivs? n (writeAll [openDiv (i.classList _ param) []]) = _
    rw [writeAll_cons, openDivs?_openDiv (notMem_classList hi hp)]
    rfl
  | @levelledBox level hlevel =>
    cases level with
    | plain => exact absurd rfl hlevel
    | info => exact hlevelled _ _ _
    | warn => exact hlevelled _ _ _
    | alert => exact hlevelled _ _ _
  | container =>
    have hid : '<' ∉ "md-container-".toList ++ param := List.not_mem_append (by decide) hp
    change openDivs? n (writeAll [openDiv (i.classList _ _) [.of "id" _]]) = _
    rw [writeAll_cons, openDivs?_openDiv_id (notMem_classList hi hid) hid]
    rfl

end Opening

/-- The first line of a comment that is written apart opens a box or a container, and the comment written behind the
body closes it: as many elements, and nothing else. -/
theorem block_closes {inner : Text} {f : BlockForm} (h : BlockForm.read? inner = some f) (i : Interpreter) :
    ∃ opening param closing depth, Opens opening closing depth ∧
      recognize? f.header = some ⟨opening, param⟩ ∧ recognize? f.close = some ⟨closing, []⟩ ∧
      ('<' ∉ f.header → i.styles.Over (· ≠ '<') → ∀ n,
        openDivs? n (writeAll (i.interpret f.header).1.html) = some (n + depth)) ∧
      writeAll (i.interpret f.close).1.html = (List.replicate depth "</div>".toList).flatten ∧
      (i.interpret f.close).2 = i := by
  obtain ⟨⟨line, body⟩, _, h⟩ := Option.bind_eq_some_iff.mp h
  obtain ⟨⟨opening, param⟩, hheader, h⟩ := Option.bind_eq_some_iff.mp h
  obtain ⟨close, hclose, h⟩ := Option.bind_eq_some_iff.mp h
  obtain rfl := Option.some.inj h
  obtain ⟨closing, depth, hopens, hrecognize⟩ := exists_opens_of_closeToken? hclose
  obtain ⟨hwrite, hstate⟩ := render_closing hopens i []
  refine ⟨opening, param, closing, depth, hopens, hheader, hrecognize, ?_, ?_, ?_⟩
  · intro hlt hi n
    have hparam : '<' ∉ param := fun hc => hlt (mem_of_mem_param hheader hc)
    rw [interpret, hheader]
    exact openDivs?_render hi hopens hparam n
  · rw [interpret, hrecognize]
    exact hwrite
  · rw [interpret, hrecognize]
    exact hstate

/-- A keyword that is glued to its parameter, in small letters, and one body line. -/
theorem block_closes_glued_keyword :
    ∃ f, BlockForm.read? "box.Information on x\nBody".toList = some f ∧
      f.header = "box.Information on x".toList ∧ f.close = "/BOX.INFO".toList ∧
      ∃ opening param closing depth, Opens opening closing depth ∧
        recognize? f.header = some ⟨opening, param⟩ ∧ recognize? f.close = some ⟨closing, []⟩ ∧
        (∀ n, openDivs? n (writeAll ((ofConfig .default).interpret f.header).1.html) = some (n + depth)) ∧
        writeAll ((ofConfig .default).interpret f.close).1.html = (List.replicate depth "</div>".toList).flatten ∧
        ((ofConfig .default).interpret f.close).2 = ofConfig .default := by
  have hread : BlockForm.read? "box.Information on x\nBody".toList =
      some ⟨"box.Information on x".toList, "Body".toList, "/BOX.INFO".toList⟩ := by decide +kernel
  have hstyles : (ofConfig .default).styles.Over (· ≠ '<') :=
    StyleRegistry.over_seeded (by rintro _ hc rfl; simp at hc) (.of_notMem (fun _ hc => hc) (by decide))
  obtain ⟨opening, param, closing, depth, hopens, hheader, hclose, hopening, hclosing, hstate⟩ :=
    block_closes hread (ofConfig .default)
  exact ⟨_, hread, rfl, rfl, opening, param, closing, depth, hopens, hheader, hclose,
    hopening (by decide) hstyles, hclosing, hstate⟩

end Directive
end Markweave
