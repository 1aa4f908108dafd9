import Markweave.FileTree
import Markweave.Proofs.Except
import Mathlib.Tactic.SplitIfs

namespace Markweave

theorem textOfBytes_bytesOfText (t : Text) : textOfBytes (bytesOfText t) = .ok t := by
  have hvalid : String.fromUTF8? (bytesOfText t) = some (String.ofList t) := dif_pos (String.ofList t).isValidUTF8
  simp only [textOfBytes, hvalid, String.toList_ofList]

theorem textOfBytes_eq_ok_iff {content : ByteArray} {text : Text} :
    textOfBytes content = .ok text ↔ content = bytesOfText text := by
  constructor
  · intro h
    unfold textOfBytes at h
    split at h
    · next s hs =>
      obtain rfl := Except.ok.inj h
      unfold String.fromUTF8? at hs
      split at hs
      · obtain rfl := Option.some.inj hs
        rw [bytesOfText, String.ofList_toList]
        rfl
      · cases hs
    · cases h
  · rintro rfl
    exact textOfBytes_bytesOfText text

namespace FileTree

variable {t u : FileTree} {l m : Location} {e : FileEntry} {name : Text}

theorem get?_set_self (hl : l ≠ []) : (t.set l e).get? l = some e := by
  simp [get?, set, hl]

theorem lookup_filter_of_ne {entries : List (Location × FileEntry)} (h : m ≠ l) :
    (entries.filter (·.1 ≠ l)).lookup m = entries.lookup m := by
  induction entries with
  | nil => rfl
  | cons entry entries ih =>
    obtain ⟨k, e⟩ := entry
    by_cases hk : k = l
    · subst hk
      rw [List.filter_cons_of_neg (by simp), ih, List.lookup_cons, beq_false_of_ne h]
    · rw [List.filter_cons_of_pos (by simpa using hk), List.lookup_cons, List.lookup_cons, ih]

theorem get?_set_of_ne (h : m ≠ l) : (t.set l e).get? m = t.get? m := by
  simp only [get?, set, List.lookup_cons, beq_false_of_ne h, lookup_filter_of_ne h]

/-- A name by which a directory is left downwards. -/
structure Names (t : FileTree) (l : Location) (name : Text) : Prop where
  directory : t.get? l = some .directory
  ne_nil : name ≠ []
  ne_dot : name ≠ ['.']
  ne_dots : name ≠ ['.', '.']
  short : (bytesOfText name).size ≤ nameLimit

/-- Where a name leads from a directory. -/
inductive Leads (t : FileTree) (l : Location) : Text → Location → Prop
  | stay {name : Text} (hl : t.get? l = some .directory) (h : name = [] ∨ name = ['.']) : Leads t l name l
  | up (hl : t.get? l = some .directory) : Leads t l ['.', '.'] l.dropLast
  | down {name : Text} (h : Names t l name) (hs : (t.get? (l ++ [name])).isSome = true) : Leads t l name (l ++ [name])

/-- What is put where no directory was bars no way. -/
theorem Leads.set (hm : t.get? m ≠ some .directory) {l l' : Location} (h : Leads t l name l') :
    Leads (t.set m e) l name l' := by
  have hdir : ∀ {l}, t.get? l = some .directory → (t.set m e).get? l = some .directory := by
    intro l hl
    have hne : l ≠ m := fun hlm => hm (hlm ▸ hl)
    rw [get?_set_of_ne hne, hl]
  cases h with
  | stay hl h => exact .stay (hdir hl) h
  | up hl => exact .up (hdir hl)
  | down h hs =>
    refine .down { h with directory := hdir h.directory } ?_
    by_cases hlm : l ++ [name] = m
    · subst hlm
      rw [get?_set_self (by simp)]
      rfl
    · rw [get?_set_of_ne hlm]
      exact hs

/-- Where a name puts a file: over one that it leads to, or beside the others of the directory. -/
inductive Place (t : FileTree) (directory : Location) (name : Text) : Location → Prop
  | existing {l : Location} (h : Leads t directory name l) (hl : t.isFile l = true) : Place t directory name l
  | beside (h : Names t directory name) (hl : t.get? (directory ++ [name]) = none) :
      Place t directory name (directory ++ [name])

theorem Place.get?_ne_directory {directory : Location} (h : Place t directory name l) :
    t.get? l ≠ some .directory := by
  intro hl
  cases h with
  | existing _ hfile =>
    rw [isFile, hl] at hfile
    cases hfile
  | beside _ hnone =>
    rw [hnone] at hl
    cases hl

theorem Place.ne_nil {directory : Location} (h : Place t directory name l) : l ≠ [] :=
  fun hl => h.get?_ne_directory (hl ▸ rfl)

theorem textAt_eq_ok_iff {text : Text} : t.textAt l = .ok text ↔ t.get? l = some (.file (bytesOfText text)) := by
  unfold textAt
  split
  · next content h => rw [h, textOfBytes_eq_ok_iff, Option.some.injEq, FileEntry.file.injEq]
  · next h => simp [h]
  · next h => simp [h]

theorem read_eq_ok_iff {cwd : Location} {path text : Text} :
    t.read cwd path = .ok text ↔ ∃ l, t.resolve cwd path = .ok l ∧ t.get? l = some (.file (bytesOfText text)) := by
  simp only [read, Except.bind_eq_ok_iff, textAt_eq_ok_iff]

end FileTree
end Markweave
