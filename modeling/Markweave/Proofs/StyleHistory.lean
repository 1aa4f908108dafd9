import Mathlib.Data.List.Basic
import Mathlib.Data.List.Induction
import Markweave.Proofs.Html.Classes

namespace Markweave.StyleRegistry

inductive Call
  | set (tags styles : List Text)
  | reset (tags styles : List Text)
deriving Repr, DecidableEq

namespace Call

def tags : Call → List Text
  | set tags _ => tags
  | reset tags _ => tags

def styles : Call → List Text
  | set _ styles => styles
  | reset _ styles => styles

def isSet : Call → Bool
  | set _ _ => true
  | reset _ _ => false

def names (tag style : Text) (c : Call) : Bool := c.tags.contains tag && c.styles.contains style

def apply (r : StyleRegistry) : Call → StyleRegistry
  | set tags styles => r.set tags styles
  | reset tags styles => r.reset tags styles

end Call

/-- A registry with default classes of a prefix, or an empty one, after some calls. -/
def after (stylePrefix? : Option Text) (history : List Call) : StyleRegistry :=
  history.foldl Call.apply (stylePrefix?.elim empty seeded)

/-- The class that a tag has from the start. -/
def defaultClass? (stylePrefix? : Option Text) (tag : Text) : Option Text :=
  stylePrefix?.bind fun p => if tag ∈ styledTags then some (defaultClass p tag) else none

section Spec

variable (tag style : Text) (history : List Call)

/-- The last call that names the tag and the style was a set. -/
def InForce : Prop := ∃ c, (history.filter (Call.names tag style)).getLast? = some c ∧ c.isSet = true

/-- The style was added last while it was absent, by the set of `styles` that follows the calls `before`. -/
structure LastAdded (before : List Call) (styles : List Text) : Prop where
  absent : ¬ InForce tag style before
  named : style ∈ styles
  kept : ∃ tags rest, history = before ++ .set tags styles :: rest ∧ tag ∈ tags ∧
    ∀ c ∈ rest, c.names tag style = true → c.isSet = true

/-- Both styles are in force and the first was added before the other, by an earlier call or as an
earlier style of one call. -/
def AddedBefore (x y : Text) : Prop :=
  ∃ before styles before' styles',
    LastAdded tag x history before styles ∧ LastAdded tag y history before' styles' ∧
      (before.length < before'.length ∨ before = before' ∧ styles.idxOf x < styles'.idxOf y)

end Spec

section Calls

variable {tag style : Text} {history : List Call} {c : Call}

theorem inForce_concat :
    InForce tag style (history ++ [c]) ↔
      if c.names tag style then c.isSet = true else InForce tag style history := by
  unfold InForce
  rw [List.filter_append]
  cases hc : c.names tag style with
  | true => simp [hc]
  | false => simp [hc]

theorem LastAdded.concat {before : List Call} {styles : List Text} (h : LastAdded tag style history before styles)
    (hc : c.names tag style = true → c.isSet = true) :
    LastAdded tag style (history ++ [c]) before styles := by
  obtain ⟨tags, rest, rfl, htag, hrest⟩ := h.kept
  refine ⟨h.absent, h.named, tags, rest ++ [c], by simp, htag, ?_⟩
  intro d hd
  rcases List.mem_append.mp hd with hd | hd
  · exact hrest d hd
  · rw [List.mem_singleton] at hd
    subst hd
    exact hc

theorem LastAdded.length_lt {before : List Call} {styles : List Text}
    (h : LastAdded tag style history before styles) : before.length < history.length := by
  obtain ⟨tags, rest, rfl, _⟩ := h.kept
  simp

/-- A style in force was added by some set when it was absent: the first one since its last reset. -/
theorem InForce.exists_lastAdded (h : InForce tag style history) :
    ∃ before styles, LastAdded tag style history before styles := by
  induction history using List.reverseRecOn with
  | nil =>
    obtain ⟨c, hc, _⟩ := h
    cases hc
  | append_singleton history c ih =>
    rw [inForce_concat] at h
    by_cases hold : InForce tag style history
    · obtain ⟨before, styles, hadded⟩ := ih hold
      refine ⟨before, styles, hadded.concat ?_⟩
      intro hc
      rwa [if_pos hc] at h
    · cases hc : c.names tag style with
      | false =>
        rw [hc] at h
        exact absurd h hold
      | true =>
        rw [if_pos hc] at h
        cases c with
        | reset tags styles => cases h
        | set tags styles =>
          obtain ⟨htag, hstyle⟩ := Bool.and_eq_true_iff.mp hc
          exact ⟨history, styles, hold, List.contains_iff_mem.mp hstyle, tags, [], rfl,
            List.contains_iff_mem.mp htag, by simp⟩

theorem AddedBefore.concat {x y : Text} (h : AddedBefore tag history x y)
    (hx : c.names tag x = true → c.isSet = true) (hy : c.names tag y = true → c.isSet = true) :
    AddedBefore tag (history ++ [c]) x y := by
  obtain ⟨before, styles, before', styles', hfirst, hsecond, horder⟩ := h
  exact ⟨before, styles, before', styles', hfirst.concat hx, hsecond.concat hy, horder⟩

end Calls

section Lookup

variable {r : StyleRegistry} {t : Text}

theorem lookup_updateEntries (t tag : Text) (f : List Text → List Text) (entries : List (Text × List Text)) :
    ((updateEntries tag f entries).lookup t).getD [] =
      if t = tag then f ((entries.lookup t).getD []) else (entries.lookup t).getD [] := by
  have hother : ∀ {t u : Text} (styles : List Text) (entries : List (Text × List Text)), t ≠ u →
      ((u, styles) :: entries).lookup t = entries.lookup t := by
    intro t u styles entries h
    rw [List.lookup_cons, beq_eq_false_iff_ne.mpr h]
  induction entries with
  | nil =>
    by_cases h : t = tag
    · subst h
      simp [updateEntries]
    · rw [updateEntries, hother _ _ h, if_neg h]
  | cons entry entries ih =>
    obtain ⟨u, present⟩ := entry
    rw [updateEntries]
    by_cases hu : u = tag
    · subst hu
      rw [if_pos rfl]
      by_cases h : t = u
      · subst h
        simp
      · rw [hother _ _ h, hother _ _ h, if_neg h]
    · rw [if_neg hu]
      by_cases h : t = u
      · subst h
        simp [hu]
      · rw [hother _ _ h, hother _ _ h, ih]

theorem styles_update (r : StyleRegistry) (t tag : Text) (f : List Text → List Text) :
    (r.update tag f).styles t = if t = tag then f (r.styles t) else r.styles t :=
  lookup_updateEntries t tag f r.entries

/-- A change of one tag after the other shows at a tag that is named, and once if it is idempotent. -/
theorem styles_foldl (step : StyleRegistry → Text → StyleRegistry) (change : List Text → List Text)
    {seed : Option Text} (hseed : ∀ r tag, (step r tag).seed = r.seed)
    (hstep : ∀ r tag, r.seed = seed → (step r tag).styles t = if t = tag then change (r.styles t) else r.styles t)
    (hchange : ∀ present, change (change present) = change present) (tags : List Text) (hr : r.seed = seed) :
    (tags.foldl step r).styles t = if t ∈ tags then change (r.styles t) else r.styles t := by
  induction tags generalizing r with
  | nil => simp
  | cons tag tags ih =>
    rw [List.foldl_cons, ih ((hseed r tag).trans hr), hstep r tag hr]
    by_cases htag : t = tag <;> by_cases htags : t ∈ tags <;> simp [htag, htags, hchange]

theorem mem_filter_nonempty {tags : List Text} (ht : t ≠ []) : t ∈ tags.filter (· ≠ []) ↔ t ∈ tags := by
  simp [ht]

end Lookup

/-- What is added of some styles where others are present: what is new, in the order in which it is named. -/
structure Added (styles present added : List Text) : Prop where
  nodup : added.Nodup
  mem_iff : ∀ s, s ∈ added ↔ s ∈ styles ∧ s ≠ [] ∧ s ∉ present
  ordered : added.Pairwise fun x y => styles.idxOf x < styles.idxOf y

namespace Added

variable {s : Text} {styles present added : List Text}

theorem ordered_cons (h : Added styles present added) (hs : ∀ x ∈ added, s ≠ x) :
    added.Pairwise fun x y => (s :: styles).idxOf x < (s :: styles).idxOf y := by
  refine h.ordered.imp_of_mem ?_
  intro x y hx hy hlt
  rw [List.idxOf_cons_ne _ (hs x hx), List.idxOf_cons_ne _ (hs y hy)]
  exact Nat.succ_lt_succ hlt

/-- A style that is empty or present already is passed over. -/
theorem skip (hskip : s = [] ∨ s ∈ present) (h : Added styles present added) : Added (s :: styles) present added := by
  have hne : ∀ x ∈ added, s ≠ x := by
    rintro x hx rfl
    obtain ⟨_, hs, hp⟩ := (h.mem_iff s).mp hx
    exact hskip.elim hs hp
  refine ⟨h.nodup, ?_, h.ordered_cons hne⟩
  intro x
  rw [h.mem_iff, List.mem_cons]
  constructor
  · rintro ⟨hx, hrest⟩
    exact ⟨.inr hx, hrest⟩
  · rintro ⟨rfl | hx, hx', hp⟩
    · exact absurd hskip (by simp [hx', hp])
    · exact ⟨hx, hx', hp⟩

theorem cons (hs : s ≠ []) (hp : s ∉ present) (h : Added styles (present ++ [s]) added) :
    Added (s :: styles) present (s :: added) := by
  have hne : ∀ x ∈ added, s ≠ x := by
    rintro x hx rfl
    exact ((h.mem_iff s).mp hx).2.2 (List.mem_append_right _ List.mem_cons_self)
  refine ⟨List.nodup_cons.mpr ⟨fun hmem => hne s hmem rfl, h.nodup⟩, ?_, ?_⟩
  · intro x
    rw [List.mem_cons, h.mem_iff, List.mem_cons]
    by_cases hx : x = s
    · simp [hx, hs, hp]
    · simp [hx]
  · refine List.pairwise_cons.mpr ⟨?_, h.ordered_cons hne⟩
    intro x hx
    rw [List.idxOf_cons_self, List.idxOf_cons_ne _ (hne x hx)]
    exact Nat.succ_pos _

end Added

/-- Styles that are added go to the end. -/
theorem foldl_addStyle (styles present : List Text) :
    ∃ added, (styles.filter (· ≠ [])).foldl addStyle present = present ++ added ∧ Added styles present added := by
  induction styles generalizing present with
  | nil => exact ⟨[], by simp, List.nodup_nil, by simp, .nil⟩
  | cons s styles ih =>
    by_cases hs : s = []
    · obtain ⟨added, hfold, hadded⟩ := ih present
      exact ⟨added, by simpa [hs] using hfold, hadded.skip (.inl hs)⟩
    · by_cases hp : s ∈ present
      · obtain ⟨added, hfold, hadded⟩ := ih present
        exact ⟨added, by simpa [hs, addStyle, hp] using hfold, hadded.skip (.inr hp)⟩
      · obtain ⟨added, hfold, hadded⟩ := ih (present ++ [s])
        exact ⟨s :: added, by simpa [hs, addStyle, hp] using hfold, hadded.cons hs hp⟩

theorem foldl_addStyle_idempotent (styles present : List Text) :
    (styles.filter (· ≠ [])).foldl addStyle ((styles.filter (· ≠ [])).foldl addStyle present) =
      (styles.filter (· ≠ [])).foldl addStyle present := by
  obtain ⟨added, hfold, hadded⟩ := foldl_addStyle styles present
  obtain ⟨again, hagain, hadded'⟩ := foldl_addStyle styles (present ++ added)
  have hnil : again = [] := by
    apply List.eq_nil_iff_forall_not_mem.mpr
    intro s hs
    obtain ⟨hstyles, hne, habsent⟩ := (hadded'.mem_iff s).mp hs
    by_cases hp : s ∈ present
    · exact habsent (List.mem_append_left _ hp)
    · exact habsent (List.mem_append_right _ ((hadded.mem_iff s).mpr ⟨hstyles, hne, hp⟩))
  rw [hfold, hagain, hnil, List.append_nil]

section

variable {r : StyleRegistry} {t : Text} (ht : t ≠ [])
include ht

theorem styles_set (tags styles : List Text) :
    (r.set tags styles).styles t =
      if t ∈ tags then (styles.filter (· ≠ [])).foldl addStyle (r.styles t) else r.styles t := by
  have hstep : ∀ r' tag, r'.seed = r.seed → (setTag (styles.filter (· ≠ [])) r' tag).styles t =
      if t = tag then (styles.filter (· ≠ [])).foldl addStyle (r'.styles t) else r'.styles t :=
    fun r' tag _ => styles_update r' t tag _
  rw [set, styles_foldl (setTag _) ((styles.filter (· ≠ [])).foldl addStyle) (fun _ _ => rfl) hstep
    (foldl_addStyle_idempotent styles) _ rfl]
  simp only [mem_filter_nonempty ht]

theorem styles_reset (tags styles : List Text) :
    (r.reset tags styles).styles t =
      if t ∈ tags then (r.styles t).filter (fun s => r.protectedClass? t == some s || !styles.contains s)
      else r.styles t := by
  have hstep : ∀ r' tag, r'.seed = r.seed → (resetTag styles r' tag).styles t =
      if t = tag then (r'.styles t).filter (fun s => r.protectedClass? t == some s || !styles.contains s)
      else r'.styles t := by
    intro r' tag hseed
    rw [resetTag, styles_update]
    by_cases h : t = tag
    · subst h
      simp [protectedClass?, hseed]
    · rw [if_neg h, if_neg h]
  rw [reset, styles_foldl (resetTag styles) _ (fun _ _ => rfl) hstep (fun _ => by simp [List.filter_filter]) _ rfl]
  simp only [mem_filter_nonempty ht]

end

theorem seed_foldl (step : StyleRegistry → Text → StyleRegistry) (h : ∀ r tag, (step r tag).seed = r.seed)
    (r : StyleRegistry) (tags : List Text) : (tags.foldl step r).seed = r.seed := by
  induction tags generalizing r with
  | nil => rfl
  | cons tag tags ih => rw [List.foldl_cons, ih, h]

theorem seed_apply (r : StyleRegistry) (c : Call) : (c.apply r).seed = r.seed := by
  cases c with
  | set tags styles => exact seed_foldl (setTag _) (fun _ _ => rfl) r _
  | reset tags styles => exact seed_foldl (resetTag _) (fun _ _ => rfl) r _

theorem after_concat (p : Option Text) (history : List Call) (c : Call) :
    after p (history ++ [c]) = c.apply (after p history) := by
  rw [after, List.foldl_append]
  rfl

theorem seed_after (p : Option Text) (history : List Call) : (after p history).seed = p := by
  induction history using List.reverseRecOn with
  | nil => cases p <;> rfl
  | append_singleton history c ih => rw [after_concat, seed_apply, ih]

theorem protectedClass?_after (p : Option Text) (history : List Call) (t : Text) :
    (after p history).protectedClass? t = defaultClass? p t := by
  rw [protectedClass?, seed_after]
  cases p <;> simp [defaultClass?]

/-- The styles of a tag behind its default class, as the history tells them. -/
structure Told (own : Option Text) (t : Text) (history : List Call) (others : List Text) : Prop where
  nodup : others.Nodup
  mem_iff : ∀ s, s ∈ others ↔ s ≠ [] ∧ own ≠ some s ∧ InForce t s history
  ordered : others.Pairwise (AddedBefore t history)

section Step

variable {own : Option Text} {t : Text} {history : List Call} {others : List Text}

theorem Told.not_named (h : Told own t history others) {c : Call} (hc : t ∉ c.tags) :
    Told own t (history ++ [c]) others := by
  have hnames : ∀ s, c.names t s = false := by
    intro s
    simp [Call.names, hc]
  refine ⟨h.nodup, ?_, ?_⟩
  · intro s
    rw [inForce_concat, hnames, h.mem_iff]
    rfl
  · exact h.ordered.imp fun hxy => hxy.concat (by simp [hnames]) (by simp [hnames])

/-- Old styles keep their places, and what a set adds was absent before it. -/
theorem Told.set (h : Told own t history others) {tags styles added : List Text} (ht : t ∈ tags)
    (hadded : Added styles (own.toList ++ others) added) :
    Told own t (history ++ [.set tags styles]) (others ++ added) := by
  have hnames : ∀ s, (Call.set tags styles).names t s = true ↔ s ∈ styles := by
    intro s
    simp [Call.names, Call.tags, Call.styles, ht]
  have habsent : ∀ s, s ∉ own.toList ++ others ↔ own ≠ some s ∧ s ∉ others := by
    intro s
    simp
  have hnew : ∀ s ∈ added, LastAdded t s (history ++ [.set tags styles]) history styles := by
    intro s hs
    obtain ⟨hstyles, hne, hs⟩ := (hadded.mem_iff s).mp hs
    obtain ⟨hown, hothers⟩ := (habsent s).mp hs
    refine ⟨?_, hstyles, tags, [], rfl, ht, by simp⟩
    intro hforce
    exact hothers ((h.mem_iff s).mpr ⟨hne, hown, hforce⟩)
  refine ⟨?_, ?_, ?_⟩
  · refine List.nodup_append.mpr ⟨h.nodup, hadded.nodup, ?_⟩
    rintro x hx y hy rfl
    exact ((habsent x).mp ((hadded.mem_iff x).mp hy).2.2).2 hx
  · intro s
    have hset : (Call.set tags styles).isSet = true := rfl
    rw [List.mem_append, inForce_concat, hadded.mem_iff, habsent, h.mem_iff]
    by_cases hs : s ∈ styles
    · simp only [(hnames s).mpr hs, if_true, hset]
      tauto
    · rw [if_neg fun hn => hs ((hnames s).mp hn)]
      tauto
  · refine List.pairwise_append.mpr ⟨?_, ?_, ?_⟩
    · exact h.ordered.imp fun hxy => hxy.concat (fun _ => rfl) fun _ => rfl
    · exact hadded.ordered.imp_of_mem fun hx hy hlt => ⟨_, _, _, _, hnew _ hx, hnew _ hy, .inr ⟨rfl, hlt⟩⟩
    · intro x hx y hy
      obtain ⟨before, styles', hold⟩ := ((h.mem_iff x).mp hx).2.2.exists_lastAdded
      exact ⟨_, _, _, _, hold.concat fun _ => rfl, hnew y hy, .inl hold.length_lt⟩

/-- What a reset leaves it does not name. -/
theorem Told.reset (h : Told own t history others) {tags styles : List Text} (ht : t ∈ tags) :
    Told own t (history ++ [.reset tags styles]) (others.filter fun s => !styles.contains s) := by
  have hnames : ∀ s, (Call.reset tags styles).names t s = styles.contains s := by
    intro s
    simp [Call.names, Call.tags, Call.styles, ht]
  refine ⟨h.nodup.filter _, ?_, ?_⟩
  · intro s
    rw [List.mem_filter, inForce_concat, hnames, h.mem_iff]
    cases hs : styles.contains s with
    | true => simp [Call.isSet]
    | false => simp
  · have hleft : ∀ s ∈ others.filter fun s => !styles.contains s,
        (Call.reset tags styles).names t s = true → (Call.reset tags styles).isSet = true := by
      intro s hs hn
      have hkept := (List.mem_filter.mp hs).2
      rw [← hnames, hn] at hkept
      cases hkept
    exact (h.ordered.filter _).imp_of_mem fun hx hy hxy => hxy.concat (hleft _ hx) (hleft _ hy)

end Step

theorem lookup_map_pair (tags : List Text) (f : Text → List Text) (t : Text) :
    (tags.map fun tag => (tag, f tag)).lookup t = if t ∈ tags then some (f t) else none := by
  induction tags with
  | nil => rfl
  | cons tag tags ih =>
    rw [List.map_cons, List.lookup_cons, ih]
    by_cases h : t = tag
    · subst h
      simp
    · simp [beq_eq_false_iff_ne.mpr h, h]

theorem styles_start (p : Option Text) (t : Text) : (after p []).styles t = (defaultClass? p t).toList := by
  cases p with
  | none => rfl
  | some p =>
    have hseeded : (after (some p) []).styles t =
        ((styledTags.map fun tag => (tag, [defaultClass p tag])).lookup t).getD [] := rfl
    rw [hseeded, lookup_map_pair, defaultClass?, Option.bind_some]
    split <;> rfl

/-- By induction over the calls: a tag has its default class and then what the history tells. -/
theorem told_after (p : Option Text) (history : List Call) {t : Text} (ht : t ≠ []) :
    ∃ others, (after p history).styles t = (defaultClass? p t).toList ++ others ∧
      Told (defaultClass? p t) t history others := by
  induction history using List.reverseRecOn with
  | nil =>
    refine ⟨[], ?_, List.nodup_nil, ?_, .nil⟩
    · rw [List.append_nil]
      exact styles_start p t
    · intro s
      simp [InForce]
  | append_singleton history c ih =>
    obtain ⟨others, hstyles, htold⟩ := ih
    rw [after_concat]
    by_cases hc : t ∈ c.tags
    · cases c with
      | set tags styles =>
        obtain ⟨added, hfold, hadded⟩ := foldl_addStyle styles ((defaultClass? p t).toList ++ others)
        refine ⟨others ++ added, ?_, htold.set hc hadded⟩
        have hc : t ∈ tags := hc
        rw [Call.apply, styles_set ht, if_pos hc, hstyles, hfold, List.append_assoc]
      | reset tags styles =>
        refine ⟨_, ?_, htold.reset hc⟩
        have hc : t ∈ tags := hc
        rw [Call.apply, styles_reset ht, if_pos hc, hstyles, protectedClass?_after, List.filter_append]
        congr 1
        · cases defaultClass? p t <;> simp
        · apply List.filter_congr
          intro s hs
          have hne : (defaultClass? p t == some s) = false := beq_eq_false_iff_ne.mpr ((htold.mem_iff s).mp hs).2.1
          rw [hne, Bool.false_or]
    · refine ⟨others, ?_, htold.not_named hc⟩
      cases c with
      | set tags styles => exact (styles_set ht tags styles).trans ((if_neg hc).trans hstyles)
      | reset tags styles => exact (styles_reset ht tags styles).trans ((if_neg hc).trans hstyles)

/-- No entry is for the empty tag or holds the empty style. -/
def Named (r : StyleRegistry) : Prop := ∀ e ∈ r.entries, e.1 ≠ [] ∧ [] ∉ e.2

theorem named_foldl {step : StyleRegistry → Text → StyleRegistry}
    (hstep : ∀ r tag, tag ≠ [] → r.Named → (step r tag).Named) {r : StyleRegistry} (hr : r.Named)
    (tags : List Text) : ((tags.filter (· ≠ [])).foldl step r).Named := by
  induction tags generalizing r with
  | nil => exact hr
  | cons tag tags ih =>
    by_cases htag : tag = []
    · simpa [htag] using ih hr
    · simpa [htag] using ih (hstep r tag htag hr)

theorem Named.apply {r : StyleRegistry} (hr : r.Named) (c : Call) : (c.apply r).Named := by
  cases c with
  | set tags styles =>
    apply named_foldl _ hr
    intro r tag htag hr
    have hadd : ∀ present, [] ∉ present → [] ∉ (styles.filter (· ≠ [])).foldl addStyle present := by
      intro present hpresent hmem
      obtain ⟨added, hfold, hadded⟩ := foldl_addStyle styles present
      rw [hfold] at hmem
      rcases List.mem_append.mp hmem with hmem | hmem
      · exact hpresent hmem
      · exact ((hadded.mem_iff []).mp hmem).2.1 rfl
    exact forall_updateEntries ⟨htag, hadd [] List.not_mem_nil⟩ (fun present h => ⟨htag, hadd present h.2⟩) hr
  | reset tags styles =>
    apply named_foldl _ hr
    intro r tag htag hr
    exact forall_updateEntries ⟨htag, List.not_mem_nil⟩
      (fun present h => ⟨htag, fun hmem => h.2 (List.mem_filter.mp hmem).1⟩) hr

theorem named_after (p : Option Text) (history : List Call) : (after p history).Named := by
  induction history using List.reverseRecOn with
  | nil =>
    cases p with
    | none => exact fun e he => absurd he List.not_mem_nil
    | some p =>
      have htags : ∀ tag ∈ styledTags, tag ≠ [] := by decide
      intro e he
      obtain ⟨tag, htag, rfl⟩ := List.mem_map.mp he
      refine ⟨htags tag htag, ?_⟩
      simp [defaultClass]
  | append_singleton history c ih =>
    rw [after_concat]
    exact ih.apply c

/-- Whatever has been set and reset, a tag has no class twice, and its default class first. Another style is
there exactly when the last call that names both was a set; these stand in the order in which they were
last added, and what is empty has no entry. -/
theorem styles_after (p : Option Text) (history : List Call) {t : Text} (ht : t ≠ []) :
    ((after p history).styles t).Nodup ∧
      (∀ d, defaultClass? p t = some d → ((after p history).styles t).head? = some d) ∧
      (∀ s, s ≠ [] → defaultClass? p t ≠ some s → (s ∈ (after p history).styles t ↔ InForce t s history)) ∧
      (((after p history).styles t).filter (defaultClass? p t ≠ some ·)).Pairwise (AddedBefore t history) ∧
      ∀ e ∈ (after p history).entries, e.1 ≠ [] ∧ [] ∉ e.2 := by
  obtain ⟨others, hstyles, htold⟩ := told_after p history ht
  have hother : ∀ s ∈ others, defaultClass? p t ≠ some s := fun s hs => ((htold.mem_iff s).mp hs).2.1
  rw [hstyles]
  refine ⟨?_, ?_, ?_, ?_, named_after p history⟩
  · refine List.nodup_append.mpr ⟨?_, htold.nodup, ?_⟩
    · cases defaultClass? p t <;> simp
    · rintro d hd s hs rfl
      exact hother d hs (Option.mem_toList.mp hd)
  · intro d hd
    rw [hd]
    rfl
  · intro s hs hown
    rw [List.mem_append, htold.mem_iff]
    simp [hs, hown]
  · have hown : (defaultClass? p t).toList.filter (defaultClass? p t ≠ some ·) = [] := by
      cases defaultClass? p t <;> simp
    rw [List.filter_append, hown, List.nil_append, List.filter_eq_self.mpr (by simpa using hother)]
    exact htold.ordered

/-- A style that is reset and set again comes behind one that stayed; the default class stays first. -/
def redAddedAgain : List Call :=
  [.set ["p", "p"] ["red", "", "big"], .reset ["p"] ["red", "jsh-md-p"], .set ["", "p"] ["red", "big"]]

theorem styles_after_red_added_again :
    "p".toList ≠ [] ∧
      (after (some "jsh-") redAddedAgain).styles "p" = ["jsh-md-p".toList, "big".toList, "red".toList] ∧
      InForce "p" "red" redAddedAgain ∧ AddedBefore "p" redAddedAgain "big" "red" := by
  have hp : "p".toList ≠ [] := by decide
  have hstyles : (after (some "jsh-") redAddedAgain).styles "p" = ["jsh-md-p".toList, "big".toList, "red".toList] := by
    decide
  obtain ⟨_, _, hmem, horder, _⟩ := styles_after (some "jsh-") redAddedAgain hp
  rw [hstyles] at hmem horder
  refine ⟨hp, hstyles, (hmem "red" (by decide) (by decide)).mp (by decide), ?_⟩
  have hothers : ["jsh-md-p".toList, "big".toList, "red".toList].filter (defaultClass? (some "jsh-") "p" ≠ some ·) =
      ["big".toList, "red".toList] := by decide
  rw [hothers] at horder
  exact List.rel_of_pairwise_cons horder List.mem_cons_self

end Markweave.StyleRegistry
