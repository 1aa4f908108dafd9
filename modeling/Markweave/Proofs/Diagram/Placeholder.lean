import Markweave.Proofs.Diagram.CodeBlock
import Markweave.Proofs.Text.Tags

namespace Markweave.Diagram

theorem plain_of_mem_all {k : DiagramKind} (hk : k ∈ DiagramKind.all) :
    '<' ∉ k.idStem ∧ '<' ∉ k.cssClass := by
  revert k
  decide

/-- How the tags of the two templates go on behind their `<`. -/
def placeholderTags : List Text :=
  List.map String.toList ["div id=\"", "/div>", "pre>", "code id=\"", "/code>", "/pre>"]

section

variable {P : Text → Prop} (hP : ∀ v s, P v → P (v ++ s)) (htags : ∀ t ∈ placeholderTags, P t)
include hP htags

theorem atTags_kindPlaceholder {k : DiagramKind} (hk : k ∈ DiagramKind.all) (id : UInt64) {body : Text}
    (hbody : '<' ∉ body) : (k.placeholder id body).AtTags P := by
  obtain ⟨hstem, hclass⟩ := plain_of_mem_all hk
  have hid := UInt64.notMem_text (c := '<') (by decide) id
  have hsplit : k.placeholder id body =
      '<' :: ("div id=\"" ++ k.idStem ++ UInt64.text id ++ "\" class=\"" ++ k.cssClass ++ "\">" ++ body) ++
        "</div>" := rfl
  rw [hsplit]
  apply Text.AtTags.append hP
  · apply Text.AtTags.tag
    · simp [hstem, hclass, hid, hbody]
    · simp only [List.append_assoc]
      exact hP "div id=\"" _ (htags _ (by decide))
  · exact .tag (t := "/div>") (by decide) (htags _ (by decide))

theorem atTags_codePlaceholder {stylePrefix : Text} (hstyle : '<' ∉ stylePrefix) (id : UInt64)
    {body : Text} (hbody : '<' ∉ body) : (codePlaceholder stylePrefix id body).AtTags P := by
  have hid := UInt64.notMem_text (c := '<') (by decide) id
  have hsplit : codePlaceholder stylePrefix id body =
      "<pre>" ++ ('<' :: ("code id=\"" ++ ("inlineCode" ++ UInt64.text id ++ "\" class=\"" ++ stylePrefix ++
        "code txt\">" ++ body)) ++ ("</code>" ++ "</pre>")) := rfl
  rw [hsplit]
  apply Text.AtTags.append hP (.tag (t := "pre>") (by decide) (htags _ (by decide)))
  apply Text.AtTags.append hP
  · apply Text.AtTags.tag
    · simp [hstyle, hid, hbody]
    · exact hP "code id=\"" _ (htags _ (by decide))
  · apply Text.AtTags.append hP
    · exact .tag (t := "/code>") (by decide) (htags _ (by decide))
    · exact .tag (t := "/pre>") (by decide) (htags _ (by decide))

theorem CodeBlock.atTags_placeholder {stylePrefix : Text} (hstyle : '<' ∉ stylePrefix) {b : CodeBlock}
    (hbody : '<' ∉ b.body) (id : UInt64) : (b.placeholder stylePrefix id).AtTags P := by
  unfold CodeBlock.placeholder
  split
  · next k hk => exact atTags_kindPlaceholder hP htags (List.mem_of_getElem? hk) id hbody
  · exact atTags_codePlaceholder hP htags hstyle id hbody

end

/-- A placeholder shows the kind of its block and the body, and nothing else of the block. -/
theorem CodeBlock.placeholder_congr {stylePrefix : Text} {b b' : CodeBlock} {id : UInt64}
    (hpass : b.pass = b'.pass) (hbody : b.body = b'.body) :
    b.placeholder stylePrefix id = b'.placeholder stylePrefix id := by
  rw [CodeBlock.placeholder, CodeBlock.placeholder, hpass, hbody]

/-- A placeholder begins and ends as a tag does. -/
theorem CodeBlock.placeholder_bracketed (stylePrefix : Text) (b : CodeBlock) (id : UInt64) :
    ∃ t, b.placeholder stylePrefix id = '<' :: (t ++ ['>']) := by
  have hdiv : ∀ a : Text, a ++ "</div>".toList = a ++ "</div".toList ++ ['>'] := by
    intro a
    rw [List.append_assoc]
    rfl
  have hpre : ∀ a : Text, a ++ "</code></pre>".toList = a ++ "</code></pre".toList ++ ['>'] := by
    intro a
    rw [List.append_assoc]
    rfl
  unfold CodeBlock.placeholder
  split
  · exact ⟨_, hdiv _⟩
  · exact ⟨_, hpre _⟩

theorem CodeBlock.head?_placeholder {stylePrefix : Text} (b : CodeBlock) (id : UInt64) :
    (b.placeholder stylePrefix id).head? = some '<' := by
  obtain ⟨t, ht⟩ := b.placeholder_bracketed stylePrefix id
  rw [ht]
  rfl

end Markweave.Diagram
