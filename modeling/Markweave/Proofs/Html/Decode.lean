import Markweave.Proofs.Html.Lenient
import Markweave.Proofs.Markdown.CharacterReference
import Markweave.Proofs.Rendering.Numbering

namespace Markweave.Html

open Markdown (CharacterReference.read? CharacterReference.read?_name)
open Rendering (respell)

/-- Decodes the references of a text from left to right, once; so many of its characters are used up already. -/
def decodeFrom : Nat → Text → Text
  | _, [] => []
  | n + 1, _ :: s => decodeFrom n s
  | 0, c :: s =>
    if c = '&' then
      match CharacterReference.read? s with
      | some (value, rest) => value ++ decodeFrom (s.length - rest.length) s
      | none => '&' :: decodeFrom 0 s
    else c :: decodeFrom 0 s

/-- Character data as it is seen. -/
def decode (s : Text) : Text := decodeFrom 0 s

theorem decode_cons {c : Char} (hc : c ≠ '&') (s : Text) : decode (c :: s) = c :: decode s := by
  rw [decode, decodeFrom, if_neg hc]
  rfl

theorem decodeFrom_append (x s : Text) : decodeFrom x.length (x ++ s) = decode s := by
  induction x with
  | nil => rfl
  | cons c x ih => exact ih

theorem decode_reference {name value s : Text} (h : CharacterReference.read? (name ++ s) = some (value, s)) :
    decode ('&' :: (name ++ s)) = value ++ decode s := by
  have hused : (name ++ s).length - s.length = name.length := by simp
  rw [decode, decodeFrom, if_pos rfl, h]
  dsimp only
  rw [hused, decodeFrom_append]

/-- A character is decoded where it was, whatever follows. -/
theorem decode_escapeChar_append (c : Char) (s : Text) : decode (escapeChar c ++ s) = c :: decode s := by
  have hnamed : ∀ name : Text, name.all Char.isAlphanum = true →
      Markdown.CharacterReference.named? name = some [c] → decode ('&' :: (name ++ [';'] ++ s)) = c :: decode s := by
    intro name hname h
    have hread : CharacterReference.read? (name ++ [';'] ++ s) = some ([c], s) := by
      rw [List.append_assoc]
      exact CharacterReference.read?_name (List.all_eq_true.mp hname) h s
    exact decode_reference hread
  by_cases hc : c ∈ ['&', '<', '>', '"', '\'']
  · simp only [List.mem_cons, List.not_mem_nil, or_false] at hc
    rcases hc with rfl | rfl | rfl | rfl | rfl
    · exact hnamed "amp" (by decide) (by decide +kernel)
    · exact hnamed "lt" (by decide) (by decide +kernel)
    · exact hnamed "gt" (by decide) (by decide +kernel)
    · exact hnamed "quot" (by decide) (by decide +kernel)
    · have hread : CharacterReference.read? ("#x27;".toList ++ s) = some (['\''], s) := rfl
      exact decode_reference hread
  · rw [escapeChar_of_notMem hc]
    apply decode_cons
    rintro rfl
    exact hc List.mem_cons_self

theorem decode_amp {s : Text} (h : CharacterReference.read? s = none) : decode ('&' :: s) = '&' :: decode s := by
  rw [decode, decodeFrom, if_pos rfl, h]
  rfl

/-- What is read as a reference begins one, so lenient escaping copies it and goes on behind it. -/
theorem escapeLenient_reference {s value rest : Text} (h : CharacterReference.read? s = some (value, rest)) :
    ∃ name, s = name ++ rest ∧ escapeLenient ('&' :: s) = '&' :: (name ++ escapeLenient rest) ∧
      ∀ t, CharacterReference.read? (name ++ t) = some (value, t) := by
  obtain ⟨name, hname, rfl, hread⟩ := Markdown.CharacterReference.exists_name_of_read? h
  have hsemicolon : ∀ c ∈ [';'], c ≠ '&' ∧ c ≠ '<' ∧ c ≠ '>' := by simp
  refine ⟨name ++ [';'], by simp, ?_, fun t => by simpa using hread t⟩
  rw [escapeLenient, if_pos (hname.opensReference rest),
    ← escapeLenient_append_plain (List.forall_mem_append.mpr ⟨hname.plain, hsemicolon⟩), List.append_assoc]
  rfl

/-- Lenient escaping makes no reference out of what was none. -/
theorem read?_escapeLenient {s : Text} (h : CharacterReference.read? s = none) :
    CharacterReference.read? (escapeLenient s) = none := by
  apply Option.eq_none_iff_forall_not_mem.mpr
  rintro ⟨value, r⟩ hsome
  obtain ⟨name, hname, he, hread⟩ := Markdown.CharacterReference.exists_name_of_read? hsome
  obtain ⟨r', rfl, hr⟩ := eq_append_of_escapeLenient (fun hc => (hname.plain _ hc).1 rfl) he
  obtain ⟨r', rfl, _⟩ := eq_append_of_escapeLenient (x := [';']) (by decide) hr
  cases h.symm.trans (hread r')

/-- Lenient escaping does not change what is seen. -/
theorem decode_escapeLenient (s : Text) : decode (escapeLenient s) = decode s := by
  match s with
  | [] => rfl
  | c :: s =>
    by_cases hc : c = '&'
    · subst hc
      cases hread : CharacterReference.read? s with
      | some found =>
        obtain ⟨name, rfl, he, hname⟩ := escapeLenient_reference hread
        rw [he, decode_reference (hname _), decode_reference (hname _), decode_escapeLenient found.2]
      | none =>
        rw [decode_amp hread, ← decode_escapeLenient s]
        rcases escapeLenient_cons_cases '&' s with he | he
        · rw [he, decode_escapeChar_append]
        · rw [he, decode_amp (read?_escapeLenient hread)]
    · rw [decode_cons hc, ← decode_escapeLenient s]
      rcases escapeLenient_cons_cases c s with he | he
      · rw [he, decode_escapeChar_append]
      · rw [he, decode_cons hc]
termination_by s.length
decreasing_by all_goals grind

theorem eq_append_of_escape {x s r : Text} (hx : '&' ∉ x) (h : escape s = x ++ r) : ∃ r', s = x ++ r' := by
  induction x generalizing s with
  | nil => exact ⟨s, rfl⟩
  | cons d x ih =>
    simp only [List.mem_cons, not_or] at hx
    cases s with
    | nil => cases h
    | cons c s =>
      rw [escape_cons] at h
      by_cases hc : c ∈ ['&', '<', '>', '"', '\'']
      · obtain ⟨name, he, _⟩ := escapeChar_of_mem hc
        rw [he] at h
        exact absurd (List.cons.inj h).1 hx.1
      · rw [escapeChar_of_notMem hc] at h
        obtain ⟨rfl, hrest⟩ := List.cons.inj h
        obtain ⟨r', rfl⟩ := ih hx.2 hrest
        exact ⟨r', rfl⟩

/-- A literal that begins with `&` is replaced behind a character if it does not begin there. -/
theorem replace_escape_cons {old new s : Text} {c : Char} (hold : old.head? = some '&')
    (h : Text.dropStart? old (escapeChar c ++ escape s) = none) :
    Text.replace old new (escapeChar c ++ escape s) = escapeChar c ++ Text.replace old new (escape s) := by
  obtain ⟨os, rfl⟩ := List.head?_eq_some_iff.mp hold
  by_cases hc : c ∈ ['&', '<', '>', '"', '\'']
  · obtain ⟨name, he, hname⟩ := escapeChar_of_mem hc
    rw [he] at h ⊢
    exact Text.replace_cons_append new hname h
  · rw [escapeChar_of_notMem hc] at h ⊢
    exact Text.replace_cons new (List.cons_ne_nil _ _) h

/-- The `&` that escaping writes begins no dash. -/
theorem replace_mdash_escape (s : Text) : Text.replace "&mdash;" "---" (escape s) = escape s := by
  induction s with
  | nil => exact Text.replace_nil _ _
  | cons c s ih =>
    have hnone : Text.dropStart? "&mdash;" (escapeChar c ++ escape s) = none := by
      by_cases hc : c ∈ ['&', '<', '>', '"', '\'']
      · simp only [List.mem_cons, List.not_mem_nil, or_false] at hc
        rcases hc with rfl | rfl | rfl | rfl | rfl
        all_goals rfl
      · rw [escapeChar_of_notMem hc]
        apply Text.dropStart?_of_head_ne
        rintro rfl
        exact hc List.mem_cons_self
    rw [escape_cons, replace_escape_cons (by decide) hnone, ih]

/-- Escaped text with the one spelling put right. -/
def repaired (s : Text) : Text := Text.replace "&amp;gt;" "&gt;" (escape s)

theorem respell_escape (s : Text) : respell (escape s) = repaired s :=
  congrArg (Text.replace "&amp;gt;" "&gt;") (replace_mdash_escape s)

/-- Where `&gt;` was escaped, the bracket itself is seen; all else is seen as it was. -/
theorem decode_respell_escape (s : Text) : decode (respell (escape s)) = Text.replace "&gt;" ">" s := by
  rw [respell_escape]
  induction s using Text.replace_induction "&gt;" (by decide) with
  | nil =>
    have hnil : repaired [] = [] := Text.replace_nil _ _
    rw [hnil, Text.replace_nil]
    rfl
  | found s ih =>
    calc decode (repaired ("&gt;".toList ++ s))
      _ = decode ("&gt;".toList ++ repaired s) :=
        congrArg decode (Text.replace_of_dropStart? _ (by decide) (Text.dropStart?_append "&amp;gt;" (escape s)))
      _ = '>' :: decode (repaired s) := decode_escapeChar_append '>' _
      _ = '>' :: Text.replace "&gt;" ">" s := congrArg ('>' :: ·) ih
      _ = Text.replace "&gt;" ">" ("&gt;".toList ++ s) :=
        (Text.replace_of_dropStart? ">" (by decide) (Text.dropStart?_append "&gt;" s)).symm
  | skip c s h ih =>
    have hnone : Text.dropStart? "&amp;gt;" (escapeChar c ++ escape s) = none := by
      by_cases hc : c ∈ ['&', '<', '>', '"', '\'']
      · simp only [List.mem_cons, List.not_mem_nil, or_false] at hc
        rcases hc with rfl | rfl | rfl | rfl | rfl
        · -- After an escaped `&` the literal goes on only where `gt;` did before.
          change Text.dropStart? "gt;" (escape s) = none
          cases hd : Text.dropStart? "gt;" (escape s) with
          | none => rfl
          | some r =>
            obtain ⟨r', rfl⟩ := eq_append_of_escape (by decide) (Text.eq_append_of_dropStart? hd)
            exact absurd (h.symm.trans (Text.dropStart?_append "&gt;" r')) (by simp)
        all_goals rfl
      · rw [escapeChar_of_notMem hc]
        apply Text.dropStart?_of_head_ne
        rintro rfl
        exact hc List.mem_cons_self
    calc decode (repaired (c :: s))
      _ = decode (escapeChar c ++ repaired s) := congrArg decode (replace_escape_cons (by decide) hnone)
      _ = c :: decode (repaired s) := decode_escapeChar_append c _
      _ = c :: Text.replace "&gt;" ">" s := congrArg (c :: ·) ih
      _ = Text.replace "&gt;" ">" (c :: s) := (Text.replace_cons _ (by decide) h).symm

end Markweave.Html
