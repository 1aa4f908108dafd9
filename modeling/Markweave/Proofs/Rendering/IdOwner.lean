import Markweave.Diagram
import Markweave.HeadingIds

namespace Markweave

/-- What a generated id is given to. -/
inductive IdOwner
  | diagram (kind : DiagramKind) (h : kind ∈ DiagramKind.all)
  | code
  | heading (digit : Char) (h : HeadingIds.isHeadingDigit digit = true)

namespace IdOwner

def isHeading : IdOwner → Bool
  | heading _ _ => true
  | _ => false

def element : IdOwner → Text
  | diagram _ _ => "div"
  | code => "code"
  | heading digit _ => ['h', digit]

def stem : IdOwner → Text
  | diagram kind _ => kind.idStem
  | code => "inlineCode"
  | heading _ _ => "heading_"

def id (o : IdOwner) (n : UInt64) : Text := o.stem ++ UInt64.text n

/-- The tag of an owner up to the end of its id attribute, behind the bracket. -/
def tagStart (o : IdOwner) (n : UInt64) : Text := o.element ++ " id=\"" ++ o.id n ++ "\""

theorem tagStart_eq (o : IdOwner) (n : UInt64) :
    o.tagStart n = o.element ++ " id=\"" ++ o.stem ++ UInt64.text n ++ "\"" :=
  congrArg (· ++ "\"".toList) (List.append_assoc _ o.stem (UInt64.text n)).symm

/-- The characters of a generated tag up to the end of its id attribute. -/
def isStartChar (c : Char) : Bool := c.isAlphanum || c == ' ' || c == '=' || c == '"' || c == '_'

theorem isStartChar_of_isDigit {c : Char} (h : c.isDigit = true) : isStartChar c = true := by
  simp [isStartChar, Char.isAlphanum, h]

theorem isStartChar_of_mem_tagStart {o : IdOwner} {n : UInt64} {c : Char} (h : c ∈ o.tagStart n) :
    isStartChar c = true := by
  have hname : o.element.all isStartChar = true := by
    cases o with
    | diagram kind hk => exact (by decide : "div".toList.all isStartChar = true)
    | code => decide
    | heading digit hd =>
      have hdigit := isStartChar_of_isDigit (HeadingIds.isDigit_of_isHeadingDigit hd)
      rw [element, List.all_cons, List.all_cons, hdigit]
      rfl
  have hstem : o.stem.all isStartChar = true := by
    have hkinds : ∀ k ∈ DiagramKind.all, k.idStem.all isStartChar = true := by decide
    cases o with
    | diagram kind hk => exact hkinds kind hk
    | code => decide
    | heading digit hd => exact (by decide : "heading_".toList.all isStartChar = true)
  have hmiddle : " id=\"".toList.all isStartChar = true := by decide
  simp only [tagStart, id, List.mem_append] at h
  rcases h with ((h | h) | h | h) | h
  · exact List.all_eq_true.mp hname c h
  · exact List.all_eq_true.mp hmiddle c h
  · exact List.all_eq_true.mp hstem c h
  · exact isStartChar_of_isDigit (UInt64.isDigit_of_mem_text h)
  · obtain rfl := List.mem_singleton.mp h
    decide

theorem notMem_tagStart {c : Char} (hc : isStartChar c = false) (o : IdOwner) (n : UInt64) :
    c ∉ o.tagStart n := by
  intro h
  rw [isStartChar_of_mem_tagStart h] at hc
  cases hc

end IdOwner

namespace Diagram

/-- What stands behind the id in the tag of a diagram. -/
def kindClass (k : DiagramKind) : Text := " class=\"" ++ k.cssClass ++ "\""

def codeClass (stylePrefix : Text) : Text := " class=\"" ++ stylePrefix ++ "code txt\""

theorem notMem_kindClass {c : Char} (hc : IdOwner.isStartChar c = false) {k : DiagramKind}
    (hk : k ∈ DiagramKind.all) : c ∉ kindClass k := by
  have hall : ∀ k ∈ DiagramKind.all, (kindClass k).all IdOwner.isStartChar = true := by decide
  intro h
  rw [List.all_eq_true.mp (hall k hk) c h] at hc
  cases hc

theorem notMem_codeClass {c : Char} (hc : IdOwner.isStartChar c = false) {stylePrefix : Text}
    (hstyle : c ∉ stylePrefix) : c ∉ codeClass stylePrefix := by
  have hopen : " class=\"".toList.all IdOwner.isStartChar = true := by decide
  have hclose : "code txt\"".toList.all IdOwner.isStartChar = true := by decide
  intro h
  rcases List.mem_append.mp h with h | h
  · rcases List.mem_append.mp h with h | h
    · rw [List.all_eq_true.mp hopen c h] at hc
      cases hc
    · exact hstyle h
  · rw [List.all_eq_true.mp hclose c h] at hc
    cases hc

theorem kindPlaceholder_eq {k : DiagramKind} (hk : k ∈ DiagramKind.all) (id : UInt64) (body : Text) :
    k.placeholder id body =
      '<' :: ((IdOwner.diagram k hk).tagStart id ++ kindClass k ++ '>' :: (body ++ "</div>")) := by
  have hend : ∀ a : Text, a ++ "\" class=\"".toList ++ k.cssClass ++ "\">".toList ++ body ++ "</div>".toList =
      a ++ "\"".toList ++ (" class=\"".toList ++ k.cssClass ++ "\"".toList) ++
        '>' :: (body ++ "</div>".toList) := by
    intro a
    simp only [List.append_assoc]
    rfl
  rw [IdOwner.tagStart_eq]
  exact hend _

theorem codePlaceholder_eq (stylePrefix : Text) (id : UInt64) (body : Text) :
    codePlaceholder stylePrefix id body = "<pre>" ++
      '<' :: (IdOwner.code.tagStart id ++ codeClass stylePrefix ++ '>' :: (body ++ "</code></pre>")) := by
  have hend : ∀ a : Text, a ++ "\" class=\"".toList ++ stylePrefix ++ "code txt\">".toList ++ body ++
      "</code></pre>".toList = a ++ "\"".toList ++ (" class=\"".toList ++ stylePrefix ++ "code txt\"".toList) ++
        '>' :: (body ++ "</code></pre>".toList) := by
    intro a
    simp only [List.append_assoc]
    rfl
  rw [IdOwner.tagStart_eq]
  exact hend _

end Diagram

theorem HeadingIds.writeTag_eq {d : Char} (hd : isHeadingDigit d = true) (id : UInt64) (attributes : Text) :
    writeTag id ⟨d, attributes⟩ = '<' :: ((IdOwner.heading d hd).tagStart id ++ attributes ++ ['>']) := by
  rw [IdOwner.tagStart_eq]
  rfl

end Markweave
