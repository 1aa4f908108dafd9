import Markweave.Html.Markup
import Markweave.Proofs.Html.Classes

namespace Markweave

open Text (Over)

namespace Html

def headingNames : List Text := List.map String.toList ["h1", "h2", "h3", "h4", "h5", "h6"]

/-- The elements that are neither headings nor code. -/
def plainNames : List Text :=
  List.map String.toList
    ["p", "blockquote", "ol", "ul", "li", "dl", "dt", "dd", "table", "thead", "tbody", "tr", "th", "td", "em",
      "strong", "del", "sup", "sub", "a", "img", "br", "hr", "input", "div", "label", "span", "script"]

def tagNames : List Text := headingNames ++ "code".toList :: "pre".toList :: plainNames

theorem range_of_isAlphanum {c : Char} (h : c.isAlphanum = true) :
    (65 ≤ c.toNat ∧ c.toNat ≤ 90 ∨ 97 ≤ c.toNat ∧ c.toNat ≤ 122) ∨ 48 ≤ c.toNat ∧ c.toNat ≤ 57 := by
  change (decide ('A'.val ≤ c.val ∧ c.val ≤ 'Z'.val) || (decide ('a'.val ≤ c.val) && decide (c.val ≤ 'z'.val)) ||
    (decide ('0'.val ≤ c.val) && decide (c.val ≤ '9'.val))) = true at h
  simp only [Bool.or_eq_true, Bool.and_eq_true, decide_eq_true_eq, UInt32.le_iff_toNat_le] at h
  exact h

theorem mem_tagNames_of_plain {name : Text} (h : name ∈ plainNames) : name ∈ tagNames :=
  List.mem_append_right _ (List.mem_cons_of_mem _ (List.mem_cons_of_mem _ h))

/-- A character that neither ends a quoted value nor begins or ends a tag. -/
def isValueChar (c : Char) : Bool := c != '<' && c != '>' && c != '"'

/-- An attribute with an alphanumeric name and a value over the class of characters. -/
def Attribute.Over (A : Char → Prop) (a : Attribute) : Prop :=
  a.name.all Char.isAlphanum = true ∧ ∀ v ∈ a.value, Text.Over A v

/-- Opens elements of the list only, has no `<` in its text and keeps to the class of characters in its
attributes. -/
def Markup.Uses (opens : List Text) (A : Char → Prop) : Markup → Prop
  | verbatim t => '<' ∉ t
  | opening n as => n ∈ opens ∧ ∀ a ∈ as, a.Over A
  | standalone n as => n ∈ opens ∧ ∀ a ∈ as, a.Over A
  | closing n => n ∈ tagNames

/-- Text over the class of characters, where it is not escaped, is closed by a tag at once. -/
inductive AllUse (opens : List Text) (A : Char → Prop) : List Markup → Prop
  | nil : AllUse opens A []
  | cons {m : Markup} {ms : List Markup} (h : m.Uses opens A) (hs : AllUse opens A ms) :
      AllUse opens A (m :: ms)
  | raw {t n : Text} {ms : List Markup} (ht : Text.Over A t) (hn : n ∈ tagNames) (hs : AllUse opens A ms) :
      AllUse opens A (.verbatim t :: .closing n :: ms)

variable {A : Char → Prop} {opens : List Text}

namespace AllUse

theorem one {m : Markup} (h : m.Uses opens A) : AllUse opens A [m] := nil.cons h

theorem append {xs ys : List Markup} (hx : AllUse opens A xs) (hy : AllUse opens A ys) :
    AllUse opens A (xs ++ ys) := by
  induction hx with
  | nil => exact hy
  | cons h _ ih => exact .cons h ih
  | raw ht hn _ ih => exact .raw ht hn ih

theorem flatten {parts : List (List Markup)} (h : ∀ ms ∈ parts, AllUse opens A ms) :
    AllUse opens A parts.flatten := by
  induction parts with
  | nil => exact .nil
  | cons ms parts ih =>
    rw [List.forall_mem_cons] at h
    exact h.1.append (ih h.2)

theorem mono {more : List Text} (h : opens ⊆ more) {ms : List Markup} (hs : AllUse opens A ms) :
    AllUse more A ms := by
  induction hs with
  | nil => exact .nil
  | @cons m ms hm _ ih =>
    apply AllUse.cons _ ih
    cases m with
    | verbatim t => exact hm
    | opening n as => exact ⟨h hm.1, hm.2⟩
    | standalone n as => exact ⟨h hm.1, hm.2⟩
    | closing n => exact hm
  | raw ht hn _ ih => exact .raw ht hn ih

end AllUse

theorem Attribute.Over.notMem_name {a : Attribute} (h : a.Over A) {c : Char} (hc : c.isAlphanum = false) :
    c ∉ a.name := by
  intro hmem
  exact Bool.false_ne_true (hc.symm.trans (List.all_eq_true.mp h.1 c hmem))

theorem ne_of_isValueChar {c : Char} (h : isValueChar c = true) : c ≠ '<' ∧ c ≠ '>' ∧ c ≠ '"' := by
  simpa [isValueChar, and_assoc] using h

/-- A class that leaves out the brackets and the quote has value characters only. -/
theorem isValueChar_of_class {p : Char → Bool} (hlt : p '<' = false) (hgt : p '>' = false) (hquot : p '"' = false)
    {c : Char} (hc : p c = true) : isValueChar c = true := by
  have hne : ∀ {d : Char}, p d = false → c ≠ d := by
    rintro d hd rfl
    exact Bool.false_ne_true (hd.symm.trans hc)
  simp [isValueChar, hne hlt, hne hgt, hne hquot]

theorem Attribute.Over.of {name value : Text} (hn : name.all Char.isAlphanum = true) (hv : Text.Over A value) :
    (Attribute.of name value).Over A := by
  refine ⟨hn, ?_⟩
  intro v h
  obtain rfl := Option.some.inj h
  exact hv

end Html

namespace StyleRegistry

variable {A : Char → Prop}

theorem Over.classAttribute (hblank : A ' ') {r : StyleRegistry} (h : r.Over A) (tag : Text) :
    ∀ a ∈ r.classAttribute tag, a.Over A := by
  unfold StyleRegistry.classAttribute
  split
  · exact fun a ha => absurd ha List.not_mem_nil
  · intro a ha
    rw [List.mem_singleton] at ha
    subst ha
    exact .of (by decide) (h.classes hblank tag)

end StyleRegistry

end Markweave
