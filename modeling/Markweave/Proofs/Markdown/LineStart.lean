import Markweave.Proofs.Markdown.StepAppend

namespace Markweave.Markdown

open Marker

variable {opts : Options} {s : Text}

/-- What is added to something found does not change the rest. -/
theorem suffix_of_map {α β : Type} {found : Option (α × Text)} {f : α → β} {b : β} {q t r : Text} (x : Text)
    (hfound : ∀ a, found = some (a, r) → q <:+ t) (h : (found.map fun (a, r) => (f a, r)) = some (b, r)) :
    q <:+ x ++ t := by
  obtain ⟨⟨a, r'⟩, ha, heq⟩ := Option.map_eq_some_iff.mp h
  obtain ⟨_, rfl⟩ := Prod.mk.inj heq
  exact (hfound a ha).trans (List.suffix_append x t)

namespace Link

theorem bracketed?_suffix {d r : Text} (h : bracketed? s = some (d, r)) : r <:+ s := by
  fun_induction bracketed? s generalizing d with
  | case1 => cases h
  | case2 s =>
    obtain ⟨rfl, rfl⟩ := Prod.mk.inj (Option.some.inj h)
    exact ⟨['>'], rfl⟩
  | case3 c s hc ih => exact suffix_of_map (f := ('\\' :: c :: ·)) ['\\', c] (fun _ => ih) h
  | case4 c s hc ih => exact suffix_of_map ['\\'] (fun _ => ih) h
  | case5 => cases h
  | case6 c s hclose hescape hstop ih => exact suffix_of_map [c] (fun _ => ih) h

theorem bare?_suffix {limit nest : Nat} {d r : Text} (h : bare? limit nest s = some (d, r)) : r <:+ s := by
  fun_induction bare? limit nest s generalizing d with
  | case1 =>
    obtain ⟨rfl, rfl⟩ := Prod.mk.inj (Option.some.inj h)
    exact List.suffix_refl _
  | case2 => cases h
  | case3 => cases h
  | case4 nest s hlimit ih => exact suffix_of_map ['('] (fun _ => ih) h
  | case5 s =>
    obtain ⟨rfl, rfl⟩ := Prod.mk.inj (Option.some.inj h)
    exact List.suffix_refl _
  | case6 nest s hnest ih => exact suffix_of_map [')'] (fun _ => ih) h
  | case7 nest c s hc ih => exact suffix_of_map (f := ('\\' :: c :: ·)) ['\\', c] (fun _ => ih) h
  | case8 nest c s hc ih => exact suffix_of_map ['\\'] (fun _ => ih) h
  | case9 =>
    obtain ⟨rfl, rfl⟩ := Prod.mk.inj (Option.some.inj h)
    exact List.suffix_refl _
  | case10 => cases h
  | case11 nest c s hopen hclose hescape hc ih => exact suffix_of_map [c] (fun _ => ih) h

theorem destination?_suffix {limit : Nat} {d r : Text} (h : destination? limit s = some (d, r)) : r <:+ s := by
  rw [destination?.eq_def] at h
  split at h
  · exact (bracketed?_suffix h).trans ⟨['<'], rfl⟩
  · exact bare?_suffix h

theorem title?_suffix {next : NextLine} {t r : Text} (h : title? false next s = some (t, r)) : r <:+ s := by
  cases s with
  | nil => cases h
  | cons opener s =>
    obtain ⟨closer, _, hfrom⟩ := Option.bind_eq_some_iff.mp h
    exact ((titleFrom?_suffix hfrom).trans s.tail_suffix).trans ⟨[opener], rfl⟩

/-- Before the rest of the text the label is closed. -/
theorem labelFrom?_close {next : NextLine} {n : Nat} {l r : Text} (h : labelFrom? next n s = some (l, r)) :
    ']' :: r <:+ s := by
  fun_induction labelFrom? next n s generalizing l with
  | case1 => cases h
  | case2 n c s ih => exact (ih h).trans ⟨[c], rfl⟩
  | case3 => cases h
  | case4 s =>
    obtain ⟨rfl, rfl⟩ := Prod.mk.inj (Option.some.inj h)
    exact List.suffix_refl _
  | case5 => cases h
  | case6 c s ih => exact suffix_of_map (f := ('\\' :: c :: ·)) ['\\'] (fun _ => ih) h
  | case7 c s hopen hclose hescape hend ih =>
    obtain ⟨_, _, h⟩ := Option.bind_eq_some_iff.mp h
    obtain ⟨_, _, h⟩ := Option.bind_eq_some_iff.mp h
    obtain ⟨⟨l', r'⟩, hfound, h⟩ := Option.bind_eq_some_iff.mp h
    obtain ⟨rfl, rfl⟩ := Prod.mk.inj (Option.some.inj h)
    exact (ih _ hfound).trans ⟨[c], rfl⟩
  | case8 c s hopen hclose hescape hend ih => exact suffix_of_map [c] (fun _ => ih) h

theorem label?_close {next : NextLine} {l r : Text} (h : label? next s = some (l, r)) : ']' :: r <:+ s :=
  labelFrom?_close (Option.filter_eq_some_iff.mp h).1

end Link

namespace BlockReader

theorem suffix_of_skipToNext? {o : Outline} {onNextLine : Bool} {r : Text}
    (h : skipToNext? opts o s = some (onNextLine, r)) : r <:+ s := by
  have hblank := List.dropWhile_suffix (l := s) isInlineBlank
  rw [skipToNext?] at h
  dsimp only at h
  split at h
  · obtain ⟨_, rfl⟩ := Prod.mk.inj (Option.some.inj h)
    exact hblank
  · next below hbelow =>
    obtain ⟨next, hnext, h⟩ := Option.bind_eq_some_iff.mp h
    split at h
    · cases h
    · obtain ⟨_, rfl⟩ := Prod.mk.inj (Option.some.inj h)
      have hdrop : below <:+ s := suffix_of_dropBlankLine? hbelow
      exact ((List.dropWhile_suffix _).trans (behindMargin_continueLine? hnext).sameLine.suffix).trans hdrop

/-- A definition ends where nothing is left on the line. -/
theorem definitionEnd?_cases {o : Outline} {title r : Text} (h : definitionEnd? opts o s = some (title, r)) :
    r <:+ s ∧ ∃ below, dropBlankLine? r = some below := by
  have hself : ∀ {below}, dropBlankLine? s = some below → s <:+ s ∧ ∃ below, dropBlankLine? s = some below :=
    fun hbelow => ⟨List.suffix_refl s, _, hbelow⟩
  -- What is next stands on the line below only if nothing else is left on this one.
  have hblank : ∀ next, skipToNext? opts o s = some (true, next) → ∃ below, dropBlankLine? s = some below := by
    intro next hnext
    rw [skipToNext?] at hnext
    dsimp only at hnext
    split at hnext
    · cases hnext
    · next below hbelow => exact ⟨below, hbelow⟩
  rw [definitionEnd?] at h
  split at h
  · next hskip =>
    obtain ⟨rfl, rfl⟩ := Prod.mk.inj (Option.some.inj h)
    rw [skipToNext?] at hskip
    dsimp only at hskip
    split at hskip
    · cases hskip
    · next hbelow => exact hself hbelow
  · next onNextLine next hskip =>
    have hown : (if onNextLine = true then some ([], s) else none) = some (title, r) →
        r <:+ s ∧ ∃ below, dropBlankLine? r = some below := by
      intro hnone
      split at hnone
      · next hnext =>
        subst hnext
        obtain ⟨rfl, rfl⟩ := Prod.mk.inj (Option.some.inj hnone)
        obtain ⟨below, hbelow⟩ := hblank next hskip
        exact hself hbelow
      · cases hnone
    split at h
    · cases h
    split at h
    · next title' rest htitle =>
      split at h
      · next hrest =>
        obtain ⟨rfl, rfl⟩ := Prod.mk.inj (Option.some.inj h)
        exact ⟨(Link.title?_suffix htitle).trans (suffix_of_skipToNext? hskip), Option.isSome_iff_exists.mp hrest⟩
      · exact hown h
    · exact hown h

theorem startsLine_definition? {o : Outline} {label r : Text} {target : Link.Target}
    (h : definition? opts o s = some (label, target, r)) : StartsLine s r := by
  rw [definition?.eq_def] at h
  split at h
  · next s =>
    obtain ⟨⟨label', colon⟩, hlabel, h⟩ := Option.bind_eq_some_iff.mp h
    obtain ⟨behindColon, hcolon, h⟩ := Option.bind_eq_some_iff.mp h
    obtain ⟨⟨_, place⟩, hplace, h⟩ := Option.bind_eq_some_iff.mp h
    obtain ⟨⟨url, behind⟩, hurl, h⟩ := Option.bind_eq_some_iff.mp h
    dsimp only at h
    split at h
    · cases h
    obtain ⟨⟨title, rest⟩, hend, h⟩ := Option.bind_eq_some_iff.mp h
    obtain ⟨hrest, below, hbelow⟩ := definitionEnd?_cases hend
    rw [hbelow] at h
    obtain ⟨_, _, rfl⟩ : label' = label ∧ _ = target ∧ below = r := by simpa using h
    have hcolons : behindColon <:+ s :=
      .trans ⟨_, (Text.eq_append_of_dropStart? hcolon).symm⟩ ((List.suffix_cons _ _).trans (Link.label?_close hlabel))
    have hbehind : behind <:+ behindColon := (Link.destination?_suffix hurl).trans (suffix_of_skipToNext? hplace)
    have hsuffix : rest <:+ '[' :: s := ((hrest.trans hbehind).trans hcolons).trans (List.suffix_cons _ _)
    exact (startsLine_of_dropBlankLine? hbelow).of_suffix hsuffix
  · cases h

theorem startsLine_addHtml (o : Outline) (ending : RawHtml.BlockEnd) (lines : List HtmlLine) (indentation s : Text) :
    StartsLine s (addHtml o ending lines indentation s).2 := by
  have hline := startsLine_cutFullLine s
  rw [addHtml]
  dsimp only
  split <;> exact hline

theorem startsLine_startHeading (o : Outline) (level : HeadingLevel) (s : Text) :
    StartsLine s (startHeading o level s).2 := by
  have hbehind := List.drop_suffix level.number s
  have hcontent := (List.dropWhile_suffix isInlineBlank).trans hbehind
  rw [startHeading]
  dsimp only
  split
  · next hdrop => exact (startsLine_of_dropLineEnd? hdrop).of_suffix hbehind
  · exact (startsLine_cutFullLine _).of_suffix hcontent

theorem suffix_of_fence? {f : Fence} {behind : Text} (h : fence? s = some (f, behind)) : behind <:+ s := by
  rw [fence?.eq_def] at h
  split at h
  · cases h
  · next mark t =>
    have hdrop := List.drop_suffix (runLength mark (mark :: t)) (mark :: t)
    dsimp only at h
    split at h
    · cases h
    split at h
    · obtain ⟨_, rfl⟩ := Prod.mk.inj (Option.some.inj h)
      exact hdrop
    split at h
    · obtain ⟨_, rfl⟩ := Prod.mk.inj (Option.some.inj h)
      exact hdrop
    · cases h

theorem below_of_thematicBreak? {r : Text} (h : thematicBreak? s = some r) : (cutLine s).2.2 = r := by
  rw [thematicBreak?] at h
  split at h
  · cases h
  dsimp only at h
  split at h
  · exact Option.some.inj h
  · cases h

theorem startsLine_startLeaf (o : Outline) (c : Cursor) : StartsLine c.rest (startLeaf opts o c).2 := by
  have hplace := (Cursor.sameLine_skip c 4).suffix
  rw [startLeaf]
  split
  · next code hskip =>
    rw [hskip] at hplace
    exact (startsLine_cutFullLine code.rest).of_suffix hplace
  · next missing place _ hskip =>
    rw [hskip] at hplace
    refine StartsLine.of_suffix ?_ hplace
    dsimp only
    cases RawHtml.blockStart? place.rest with
    | some ending => exact startsLine_addHtml o ending [] _ place.rest
    | none =>
      cases hrule : thematicBreak? place.rest with
      | some rest =>
        obtain rfl := below_of_thematicBreak? hrule
        exact startsLine_cutLine place.rest
      | none =>
        cases headingLevel? place.rest with
        | some level => exact startsLine_startHeading o level place.rest
        | none =>
          cases hfence : fence? place.rest with
          | some found =>
            obtain ⟨f, behind⟩ := found
            exact (startsLine_cutFullLine _).of_suffix ((List.dropWhile_suffix _).trans (suffix_of_fence? hfence))
          | none =>
            cases hdefinition : definition? opts o place.rest with
            | some found =>
              obtain ⟨label, target, rest⟩ := found
              exact startsLine_definition? hdefinition
            | none => exact startsLine_cutLine place.rest

theorem startsLine_startBlock (opts : Options) (h : '\n' ∈ s) (o : Outline) : StartsLine s (startBlock opts o s).2 := by
  have hinside := o.sameLine_enter s
  have hmem := hinside.newline_mem h
  obtain ⟨_, hline, hbelow⟩ := openFrames_append opts (m := s.length) (n := s.length) hmem
    hinside.suffix.length_le hinside.suffix.length_le (o.leave (o.frames.length - (o.enter s).1)) []
  rw [startBlock]
  dsimp only
  generalize openFrames opts s.length (o.leave (o.frames.length - (o.enter s).1)) (o.enter s).2 = opened at hline hbelow
  obtain ⟨inner, c, done⟩ := opened
  cases done with
  | true =>
    obtain ⟨t, ht, hdrop⟩ := hbelow rfl
    exact (startsLine_of_dropBlankLine? hdrop).of_suffix (ht.suffix.trans hinside.suffix)
  | false =>
    have hc := (hline rfl).suffix.trans hinside.suffix
    dsimp only
    cases hdrop : dropBlankLine? c.rest with
    | some rest => exact (startsLine_of_dropBlankLine? hdrop).of_suffix hc
    | none => exact (startsLine_startLeaf _ c).of_suffix hc

theorem sameLine_enterAll? {o : Outline} {inside : Cursor} (h : o.enterAll? s = some inside) :
    SameLine s inside.rest := by
  have hinside := o.sameLine_enter s
  rw [Outline.enterAll?] at h
  dsimp only at h
  split at h
  · obtain rfl := Option.some.inj h
    exact hinside
  · cases h

theorem below_of_dashLine? {c : Cursor} {alignments : List Alignment} {r : Text}
    (h : Table.dashLine? c = some (alignments, r)) : (cutLine c.rest).2.2 = r := by
  have hplace := Cursor.sameLine_skip c 4
  have hcolumns : ∀ {found : Option (List Alignment)} {below : Text},
      (found.bind fun as => if as = [] then none else some (as, below)) = some (alignments, r) → below = r := by
    intro found below hfound
    obtain ⟨as, _, hfound⟩ := Option.bind_eq_some_iff.mp hfound
    split at hfound
    · cases hfound
    · exact (Prod.mk.inj (Option.some.inj hfound)).2
  rw [Table.dashLine?] at h
  split at h
  · cases h
  next inside _ hskip =>
  rw [hskip] at hplace
  rw [hplace.cutLine_eq]
  dsimp only at h
  split at h
  · cases h
  · exact hcolumns h
  · exact hcolumns h

/-- The line of dashes under a heading makes a table without rows of it. -/
theorem table?_cases {o : Outline} {content : Text} {lines : Nat} {leaf : Leaf} {r : Text}
    (h : table? opts o content lines s = some (leaf, r)) :
    (∃ alignments head, leaf = .table alignments head []) ∧ (cutLine s).2.2 = r := by
  rw [table?] at h
  dsimp only at h
  split at h
  · cases h
  obtain ⟨inside, hinside, h⟩ := Option.bind_eq_some_iff.mp h
  obtain ⟨⟨alignments, rest⟩, hdashes, h⟩ := Option.bind_eq_some_iff.mp h
  dsimp only at h
  split at h
  · obtain ⟨rfl, rfl⟩ := Prod.mk.inj (Option.some.inj h)
    rw [(sameLine_enterAll? hinside).cutLine_eq]
    exact ⟨⟨_, _, rfl⟩, below_of_dashLine? hdashes⟩
  · cases h

theorem below_of_underline? {level : HeadingLevel} {r : Text} (h : '\n' ∈ s) (hu : underline? s = some (level, r)) :
    (cutLine s).2.2 = r := by
  have hdrop : ∀ {level' : HeadingLevel} {d : Char}, isLineEnd d = false →
      (dropBlankLine? (s.dropWhile (· == d))).map (level', ·) = some (level, r) → (cutLine s).2.2 = r := by
    intro level' d hd hmap
    have hline : SameLine s (s.dropWhile (· == d)) := .dropWhile (fun c hc => by rwa [eq_of_beq hc]) s
    obtain ⟨r', hr, heq⟩ := Option.map_eq_some_iff.mp hmap
    obtain ⟨_, rfl⟩ := Prod.mk.inj heq
    rw [hline.cutLine_eq]
    exact below_of_dropBlankLine? (hline.newline_mem h) hr
  rw [underline?.eq_def] at hu
  split at hu
  · exact hdrop rfl hu
  · exact hdrop rfl hu
  · cases hu

theorem startsLine_continueParagraph (h : '\n' ∈ s) (o : Outline) (task : Option Bool) (content : Text) (lines : Nat) :
    StartsLine s (continueParagraph opts o task content lines s).2 := by
  have hinside := o.sameLine_enter s
  have hplace := hinside.trans (Cursor.sameLine_skip (o.enter s).2 4)
  rw [continueParagraph]
  dsimp only
  cases htable : table? opts o content lines s with
  | some found =>
    obtain ⟨leaf, rest⟩ := found
    obtain rfl := (table?_cases htable).2
    exact startsLine_cutLine s
  | none =>
    dsimp only
    split
    · next level rest hunderline =>
      split at hunderline
      · obtain rfl := below_of_underline? (hplace.newline_mem h) hunderline
        exact (startsLine_cutLine _).of_suffix hplace.suffix
      · cases hunderline
    · split
      · exact startsLine_startBlock opts h o.closeLeaf
      · exact (startsLine_cutLine _).of_suffix hinside.suffix

theorem startsLine_fenceEnd? {f : Fence} {r : Text} (h : fenceEnd? f s = some r) : StartsLine s r := by
  rw [fenceEnd?] at h
  split at h
  · cases h
  · exact (startsLine_of_dropLineEnd? h).of_suffix ((List.dropWhile_suffix _).trans (List.drop_suffix _ _))

theorem startsLine_continueFenced (o : Outline) (f : Fence) (indent : Nat) (info content : Text) (c : Cursor) :
    StartsLine c.rest (continueFenced o f indent info content c).2 := by
  have hplace := (Cursor.sameLine_skip c indent).suffix
  have hmark := (Cursor.sameLine_skip (c.skip indent).2 (4 - indent)).suffix.trans hplace
  rw [continueFenced]
  dsimp only
  split
  · next rest hend =>
    split at hend
    · exact (startsLine_fenceEnd? hend).of_suffix hmark
    · cases hend
  · exact (startsLine_cutFullLine _).of_suffix hplace

theorem startsLine_continueIndented (h : '\n' ∈ s) (o : Outline) (content blanks : Text) {c : Cursor}
    (hc : c.rest <:+ s) : StartsLine s (continueIndented opts o content blanks c s).2 := by
  have hplace := (startsLine_cutFullLine (c.skip 4).2.rest).of_suffix ((Cursor.sameLine_skip c 4).suffix.trans hc)
  rw [continueIndented]
  dsimp only
  split
  · exact startsLine_startBlock opts h o.closeLeaf
  · split <;> exact hplace

theorem startsLine_continueHtml (h : '\n' ∈ s) (o : Outline) (ending : RawHtml.BlockEnd) (lines : List HtmlLine)
    {c : Cursor} (hc : c.rest <:+ s) : StartsLine s (continueHtml opts o ending lines c s).2 := by
  rw [continueHtml]
  split
  · exact startsLine_startBlock opts h o.closeLeaf
  · exact (startsLine_addHtml o ending lines _ c.rest).of_suffix hc

theorem startsLine_continueTable (h : '\n' ∈ s) (o : Outline) (alignments : List Alignment) (head : List Text)
    (rows : List (List Text)) {c : Cursor} (hc : c.rest <:+ s) :
    StartsLine s (continueTable opts o alignments head rows c s).2 := by
  have hplace := (startsLine_cutLine c.skipAll.rest).of_suffix ((List.dropWhile_suffix _).trans hc)
  rw [continueTable]
  dsimp only
  split
  · exact startsLine_startBlock opts h o.closeLeaf
  · exact hplace

/-- A step uses up whole lines. -/
theorem startsLine_step (opts : Options) (h : '\n' ∈ s) (o : Outline) : StartsLine s (step opts o s).2 := by
  have hblock := startsLine_startBlock opts h
  rw [step]
  cases o.leaf with
  | none => exact hblock o
  | paragraph task content lines => exact startsLine_continueParagraph h o task content lines
  | fenced f indent info content =>
    cases hc : o.enterAll? s with
    | none => exact hblock o.closeLeaf
    | some c => exact (startsLine_continueFenced o f indent info content c).of_suffix (sameLine_enterAll? hc).suffix
  | indented content blanks =>
    cases hc : o.enterAll? s with
    | none => exact hblock o.closeLeaf
    | some c => exact startsLine_continueIndented h o content blanks (sameLine_enterAll? hc).suffix
  | html ending lines =>
    cases hc : o.enterAll? s with
    | none => exact hblock o.closeLeaf
    | some c => exact startsLine_continueHtml h o ending lines (sameLine_enterAll? hc).suffix
  | table alignments head rows =>
    cases hc : o.enterAll? s with
    | none => exact hblock o.closeLeaf
    | some c => exact startsLine_continueTable h o alignments head rows (sameLine_enterAll? hc).suffix

end BlockReader

theorem AboveFence.cons {c : Char} {t : Text} (h : AboveFence t) : AboveFence (c :: t) := by
  cases hc : isLineEnd c with
  | false => exact (AboveFence.sameLine_iff (.tail hc t)).mpr h
  | true =>
    rw [AboveFence]
    rcases cutLine_of_isLineEnd hc t with hbelow | ⟨_, hbelow⟩
    · rw [hbelow]
      exact .above h
    · rw [hbelow]
      exact h

theorem AboveFence.append_left {t : Text} (h : AboveFence t) (x : Text) : AboveFence (x ++ t) := by
  induction x with
  | nil => exact h
  | cons c x ih => exact ih.cons

/-- What is barred from the beginning of a line on is barred as a whole. -/
theorem Barred.of_startsLine {r : Text} (h : Barred r) (hr : StartsLine s r) : Barred s := by
  rcases hr with rfl | ⟨p, c, rfl, hc⟩
  · exact absurd h.newline_mem List.not_mem_nil
  · refine .above (AboveFence.append_left ?_ p)
    rw [AboveFence]
    rcases cutLine_of_isLineEnd hc r with hbelow | ⟨⟨t, rfl⟩, hbelow⟩
    · rwa [hbelow]
    · rw [hbelow]
      exact h.cases.resolve_left (by simp [startsFence_newline])

end Markweave.Markdown
