import Markweave.Proofs.FileTree
import Markweave.Proofs.Settings
import Markweave.Proofs.Settings.Written
import Markweave.Proofs.Text.Lines
import Markweave.Settings.Load
import Mathlib.Tactic.SplitIfs

namespace Markweave.Settings

/-- The nearest directory on the way up that holds a settings file. -/
structure Nearest (host : Host) (d : Location) : Prop where
  above : d <+: host.cwd
  isFile : host.files.isFile (d ++ [fileName]) = true
  nearest : ∀ e, e <+: host.cwd → host.files.isFile (e ++ [fileName]) = true → e <+: d

theorem Nearest.unique {host : Host} {d e : Location} (hd : Nearest host d) (he : Nearest host e) : d = e := by
  have hde : d <+: e := he.nearest d hd.above hd.isFile
  exact hde.eq_of_length_le (hd.nearest e he.above he.isFile).length_le

theorem prefix_iff_exists_take {d l : Location} : d <+: l ↔ ∃ n ≤ l.length, l.take n = d := by
  constructor
  · intro h
    exact ⟨d.length, h.length_le, (List.prefix_iff_eq_take.mp h).symm⟩
  · rintro ⟨n, -, rfl⟩
    exact List.take_prefix n l

theorem mem_upwards {d l : Location} : d ∈ upwards l ↔ d <+: l := by
  simp only [upwards, List.mem_map, List.mem_reverse, List.mem_range, Nat.lt_succ_iff, prefix_iff_exists_take]

/-- On the way up each directory lies above those before it. -/
theorem pairwise_upwards (l : Location) : (upwards l).Pairwise fun d e => e <+: d := by
  rw [upwards, List.pairwise_map, List.pairwise_reverse]
  exact List.pairwise_lt_range.imp fun h => List.take_prefix_take_left (Nat.le_of_lt h)

theorem nearest_of_find? {host : Host} {d : Location}
    (h : (upwards host.cwd).find? (fun d => host.files.isFile (d ++ [fileName])) = some d) : Nearest host d := by
  obtain ⟨hfile, passed, further, hway, hpassed⟩ := List.find?_eq_some_iff_append.mp h
  refine ⟨mem_upwards.mp (List.mem_of_find?_eq_some h), hfile, ?_⟩
  intro e habove he
  have hmem : e ∈ passed ++ d :: further := hway ▸ mem_upwards.mpr habove
  rcases List.mem_append.mp hmem with hbefore | hafter
  · have hno := hpassed e hbefore
    rw [he] at hno
    cases hno
  · rcases List.mem_cons.mp hafter with rfl | hbeyond
    · exact List.prefix_rfl
    · have hrest := (List.pairwise_append.mp (hway ▸ pairwise_upwards host.cwd)).2.1
      exact List.rel_of_pairwise_cons hrest hbeyond

theorem nearest?_eq_some_iff {host : Host} {l : Location} :
    nearest? host = some l ↔ ∃ d, Nearest host d ∧ l = d ++ [fileName] := by
  rw [nearest?, List.find?_map, Option.map_eq_some_iff]
  constructor
  · rintro ⟨d, hd, rfl⟩
    exact ⟨d, nearest_of_find? hd, rfl⟩
  · rintro ⟨d, hd, rfl⟩
    have hsome : ((upwards host.cwd).find? fun d => host.files.isFile (d ++ [fileName])).isSome = true :=
      List.find?_isSome.mpr ⟨d, mem_upwards.mpr hd.above, hd.isFile⟩
    obtain ⟨e, he⟩ := Option.isSome_iff_exists.mp hsome
    obtain rfl := hd.unique (nearest_of_find? he)
    exact ⟨d, he, rfl⟩

/-- A directory of the name is no settings file. -/
example : nearest? ⟨⟨[(["a".toList, fileName], .file .empty), (["a".toList, "b".toList, fileName], .directory)]⟩,
    ["a".toList, "b".toList], ⟨[]⟩⟩ = some ["a".toList, fileName] := by decide +kernel

theorem nearest?_eq_none_iff {host : Host} :
    nearest? host = none ↔ ∀ d, d <+: host.cwd → host.files.isFile (d ++ [fileName]) = false := by
  simp [nearest?, mem_upwards]

/-- The source a load reads: the given path, the nearest file, or nothing. -/
inductive Chosen (host : Host) : Option Text → Option Source → Prop
  | given {path : Text} (h : host.files.pathExists host.cwd path = true) :
      Chosen host (some path) (some (.given path))
  | found {d : Location} (h : Nearest host d) : Chosen host none (some (.found (d ++ [fileName])))
  | nowhere (h : ∀ d, d <+: host.cwd → host.files.isFile (d ++ [fileName]) = false) : Chosen host none none

theorem source_eq_ok_iff {host : Host} {path : Option Text} {s : Option Source} :
    source host path = .ok s ↔ Chosen host path s := by
  constructor
  · intro h
    cases path with
    | some path =>
      simp only [source] at h
      split at h
      · next hexists =>
        obtain rfl := Except.ok.inj h
        exact .given hexists
      · cases h
    | none =>
      obtain rfl := Except.ok.inj h
      cases hnearest : nearest? host with
      | some l =>
        obtain ⟨d, hd, rfl⟩ := nearest?_eq_some_iff.mp hnearest
        exact .found hd
      | none => exact .nowhere (nearest?_eq_none_iff.mp hnearest)
  · intro h
    cases h with
    | given h => rw [source, if_pos h]
    | found h => rw [source, nearest?_eq_some_iff.mpr ⟨_, h, rfl⟩, Option.map_some]
    | nowhere h => rw [source, nearest?_eq_none_iff.mpr h, Option.map_none]

/-- Where the file of a source lies. -/
inductive Source.LiesAt (host : Host) : Source → Location → Prop
  | given {path : Text} {l : Location} (h : host.files.resolve host.cwd path = .ok l) : LiesAt host (.given path) l
  | found (l : Location) : LiesAt host (.found l) l

/-- What a source chooses: its file holds the text of a document, and the choices are written in a table of it. Where
there is no source there is no choice. -/
inductive Says (host : Host) : Option Source → Choices → Prop
  | nothing : Says host none {}
  | document {s : Source} {l : Location} {content : Text} {document es : Toml.Entries} {c : Choices}
      (hlies : s.LiesAt host l) (hfile : host.files.get? l = some (.file (bytesOfText content)))
      (hparse : Toml.parse? content = some document) (htable : Choices.Table document es)
      (hwritten : c.WrittenIn es) : Says host (some s) c

theorem Source.read_eq_ok_iff {host : Host} {s : Source} {content : Text} : s.read host = .ok content ↔
    ∃ l, s.LiesAt host l ∧ host.files.get? l = some (.file (bytesOfText content)) := by
  cases s with
  | given path =>
    rw [Source.read, FileTree.read_eq_ok_iff]
    constructor
    · rintro ⟨l, hpath, hfile⟩
      exact ⟨l, .given hpath, hfile⟩
    · rintro ⟨l, ⟨hpath⟩, hfile⟩
      exact ⟨l, hpath, hfile⟩
  | found l =>
    rw [Source.read, FileTree.textAt_eq_ok_iff]
    constructor
    · intro hfile
      exact ⟨l, .found l, hfile⟩
    · rintro ⟨_, ⟨⟩, hfile⟩
      exact hfile

/-- One setting of three layers. What is given stands as it is, what is written is read through first. -/
inductive Layered (Reads : α → α → Prop) (default : α) : Option α → Option α → α → Prop
  | given (a : α) (written : Option α) : Layered Reads default (some a) written a
  | written {t a : α} (h : Reads t a) : Layered Reads default none (some t) a
  | default : Layered Reads default none none default

theorem layered_iff {read : α → Except ε α} {default a : α} {given written value : Option α}
    (h : written.mapM read = .ok value) :
    Layered (read · = .ok ·) default given written a ↔ a = given.getD (value.getD default) := by
  cases given with
  | some b =>
    constructor
    · rintro ⟨⟩
      rfl
    · rintro rfl
      exact .given a written
  | none =>
    cases written with
    | some t =>
      obtain ⟨b, hb, rfl⟩ : ∃ b, read t = .ok b ∧ some b = value := by simpa using h
      constructor
      · rintro (_ | hr | _)
        exact Except.ok.inj (hr.symm.trans hb)
      · rintro rfl
        exact .written hb
    | none =>
      obtain rfl : none = value := by simpa using h
      constructor
      · rintro ⟨⟩
        rfl
      · rintro rfl
        exact .default

/-- With nothing given, what is written can be read. -/
theorem Layered.exists_mapM {read : α → Except ε α} {default a : α} {written : Option α}
    (h : Layered (read · = .ok ·) default none written a) : ∃ value, written.mapM read = .ok value := by
  cases h with
  | written h => exact ⟨some a, by simpa using h⟩
  | default => exact ⟨none, rfl⟩

@[simp] theorem layered_eq_iff {default a : α} {given written : Option α} :
    Layered Eq default given written a ↔ a = given.getD (written.getD default) := by
  constructor
  · rintro (_ | rfl | _) <;> rfl
  · rintro rfl
    rcases given with _ | a
    · rcases written with _ | t
      · exact .default
      · exact .written rfl
    · exact .given a written

/-- Settings of which each is the given one, else the written one, else the default. Of those only the two texts are
expanded when they are written. -/
structure Layers (env : Environment) (given written : Choices) (s : Settings) : Prop where
  stylePrefix :
    Layered (expand env · = .ok ·) default.stylePrefix given.stylePrefix written.stylePrefix s.stylePrefix
  app : Layered (expand env · = .ok ·) default.app given.app written.app s.app
  timeLimit : Layered Eq default.timeLimit given.timeLimit written.timeLimit s.timeLimit
  tables : Layered Eq default.tables given.tables written.tables s.tables
  strikethrough : Layered Eq default.strikethrough given.strikethrough written.strikethrough s.strikethrough
  taskLists : Layered Eq default.taskLists given.taskLists written.taskLists s.taskLists
  suppressHtml : Layered Eq default.suppressHtml given.suppressHtml written.suppressHtml s.suppressHtml
  sharedIds : Layered Eq default.sharedIds given.sharedIds written.sharedIds s.sharedIds
  togglerMode : Layered Eq default.togglerMode given.togglerMode written.togglerMode s.togglerMode
  defaultStyles : Layered Eq default.defaultStyles given.defaultStyles written.defaultStyles s.defaultStyles

theorem mapM_mapError_eq_ok_iff {read : α → Except ε α} {f : ε → ε'} {written value : Option α} :
    written.mapM (fun t => (read t).mapError f) = .ok value ↔ written.mapM read = .ok value := by
  cases written <;> simp

theorem expand_eq_ok_iff {env : Environment} {written c : Choices} :
    written.expand env = .ok c ↔ ∃ stylePrefix app, written.stylePrefix.mapM (expand env) = .ok stylePrefix ∧
      written.app.mapM (expand env) = .ok app ∧ c = { written with stylePrefix, app } := by
  simp only [Choices.expand, Except.bind_eq_ok_iff, mapM_mapError_eq_ok_iff, Except.pure_eq_ok_iff]
  constructor
  · rintro ⟨stylePrefix, hp, app, ha, rfl⟩
    exact ⟨stylePrefix, app, hp, ha, rfl⟩
  · rintro ⟨stylePrefix, app, hp, ha, rfl⟩
    exact ⟨stylePrefix, hp, app, ha, rfl⟩

theorem layers_iff {env : Environment} {given written c : Choices} {s : Settings} (h : written.expand env = .ok c) :
    Layers env given written s ↔ s = given.over (c.over default) := by
  obtain ⟨stylePrefix, app, hp, ha, rfl⟩ := expand_eq_ok_iff.mp h
  constructor
  · rintro ⟨h₁, h₂, h₃, h₄, h₅, h₆, h₇, h₈, h₉, h₁₀⟩
    rw [layered_iff hp] at h₁
    rw [layered_iff ha] at h₂
    rw [layered_eq_iff] at h₃ h₄ h₅ h₆ h₇ h₈ h₉ h₁₀
    cases s
    simp_all [Choices.over]
  · rintro rfl
    exact ⟨(layered_iff hp).mpr rfl, (layered_iff ha).mpr rfl, layered_eq_iff.mpr rfl, layered_eq_iff.mpr rfl,
      layered_eq_iff.mpr rfl, layered_eq_iff.mpr rfl, layered_eq_iff.mpr rfl, layered_eq_iff.mpr rfl,
      layered_eq_iff.mpr rfl, layered_eq_iff.mpr rfl⟩

theorem layers_none_iff {env : Environment} {written : Choices} {s : Settings} :
    Layers env {} written s ↔ ∃ c, written.expand env = .ok c ∧ s = c.over default := by
  constructor
  · intro h
    obtain ⟨stylePrefix, hp⟩ := h.stylePrefix.exists_mapM
    obtain ⟨app, ha⟩ := h.app.exists_mapM
    have hexpand := expand_eq_ok_iff.mpr ⟨stylePrefix, app, hp, ha, rfl⟩
    exact ⟨_, hexpand, (layers_iff hexpand).mp h⟩
  · rintro ⟨c, hexpand, rfl⟩
    exact (layers_iff hexpand).mpr rfl

/-- Settings that pass every check. -/
structure Valid (s : Settings) : Prop where
  stylePrefix : ∀ c ∈ s.stylePrefix, isPrefixChar c = true
  app : ∃ names, names ≠ [] ∧ (∀ name ∈ names, isIdentifier name = true) ∧ s.app = Text.joinWith '.' names
  timeLimit : 1 ≤ s.timeLimit

theorem isDottedIdentifier_iff {s : Text} : isDottedIdentifier s = true ↔
    ∃ names, names ≠ [] ∧ (∀ name ∈ names, isIdentifier name = true) ∧ s = Text.joinWith '.' names := by
  constructor
  · intro h
    exact ⟨_, Text.splitOn_ne_nil '.' s, List.all_eq_true.mp h, (Text.joinWith_splitOn '.' s).symm⟩
  · rintro ⟨names, hne, hnames, rfl⟩
    have hdot : ∀ name ∈ names, '.' ∉ name := fun name hn => notMem_identifier (hnames name hn) (by decide)
    rw [isDottedIdentifier, Text.splitOn_joinWith hdot hne]
    exact List.all_eq_true.mpr hnames

theorem fault?_eq_none_iff {s : Settings} : s.fault? = none ↔ Valid s := by
  constructor
  · intro h
    unfold fault? at h
    split at h
    · cases h
    · next hfind =>
      split_ifs at h with hempty hdotted htime
      exact ⟨by simpa using hfind, isDottedIdentifier_iff.mp (by simpa using hdotted), Nat.pos_of_ne_zero htime⟩
  · intro h
    have hdotted := isDottedIdentifier_iff.mpr h.app
    have hempty : s.app ≠ [] := by
      intro hnil
      rw [hnil] at hdotted
      cases hdotted
    have hfind : s.stylePrefix.find? (!isPrefixChar ·) = none := by simpa using h.stylePrefix
    simp [fault?, hfind, hempty, hdotted, Nat.ne_of_gt h.timeLimit]

/-- A source is read, understood and expanded. -/
theorem choices_eq_ok_iff {host : Host} {s : Source} {c : Choices} :
    s.choices host = .ok c ↔ ∃ written, Says host (some s) written ∧ written.expand host.environment = .ok c := by
  simp only [Source.choices, Except.bind_eq_ok_iff, Except.mapError_eq_ok_iff, Source.read_eq_ok_iff]
  constructor
  · rintro ⟨content, ⟨l, hlies, hfile⟩, h⟩
    split at h
    · next written hwritten =>
      obtain ⟨document, hparse, hchoices⟩ := Option.bind_eq_some_iff.mp hwritten
      obtain ⟨es, htable, hwritten⟩ := Choices.ofDocument?_eq_some_iff.mp hchoices
      exact ⟨written, .document hlies hfile hparse htable hwritten, h⟩
    · cases h
  · rintro ⟨written, ⟨⟩ | ⟨hlies, hfile, hparse, htable, hwritten⟩, h⟩
    refine ⟨_, ⟨_, hlies, hfile⟩, ?_⟩
    simp [hparse, Choices.ofDocument?_eq_some_iff.mpr ⟨_, htable, hwritten⟩, h]

/-- What a load starts from: the default, or what a file sets over it. -/
def base (host : Host) : Option Source → Except SettingsError Settings
  | none => .ok default
  | some s => do ((← s.choices host).over default).validate

/-- Only what is laid over the base is checked once more. -/
def layOver (s : Settings) : Option Choices → Except SettingsError Settings
  | none => .ok s
  | some c => (c.over s).validate

theorem load_eq (host : Host) (path : Option Text) (overrides : Option Choices) :
    load host path overrides = do
      let source ← source host path
      let base ← base host source
      return ⟨← layOver base overrides, source⟩ := by
  unfold load
  congr 1
  funext s
  cases s with
  | none => cases overrides <;> rfl
  | some s =>
    cases overrides with
    | none =>
      simp only [base, bind_assoc]
      rfl
    | some c => simp only [base, layOver, bind_assoc]

theorem base_eq_ok_iff {host : Host} {source : Option Source} {s : Settings} :
    base host source = .ok s ↔ ∃ written, Says host source written ∧
      (∃ c, written.expand host.environment = .ok c ∧ s = c.over default) ∧ Valid s := by
  cases source with
  | none =>
    constructor
    · intro h
      obtain rfl := Except.ok.inj h
      exact ⟨{}, .nothing, ⟨{}, rfl, rfl⟩, fault?_eq_none_iff.mp fault?_default⟩
    · rintro ⟨_, ⟨⟩, ⟨c, hexpand, rfl⟩, -⟩
      obtain rfl := Except.ok.inj hexpand
      rfl
  | some source =>
    simp only [base, Except.bind_eq_ok_iff, choices_eq_ok_iff, validate_eq_ok_iff, fault?_eq_none_iff]
    constructor
    · rintro ⟨c, ⟨written, hsays, hexpand⟩, hvalid, rfl⟩
      exact ⟨written, hsays, ⟨c, hexpand, rfl⟩, hvalid⟩
    · rintro ⟨written, hsays, ⟨c, hexpand, rfl⟩, hvalid⟩
      exact ⟨c, ⟨written, hsays, hexpand⟩, hvalid, rfl⟩

theorem layOver_eq_ok_iff {base s : Settings} (h : Valid base) {overrides : Option Choices} :
    layOver base overrides = .ok s ↔ s = (overrides.getD {}).over base ∧ Valid s := by
  cases overrides with
  | none =>
    constructor
    · intro hs
      obtain rfl := Except.ok.inj hs
      exact ⟨rfl, h⟩
    · rintro ⟨rfl, -⟩
      rfl
  | some c =>
    rw [layOver, validate_eq_ok_iff, fault?_eq_none_iff, Option.getD_some]
    constructor
    · rintro ⟨hvalid, rfl⟩
      exact ⟨rfl, hvalid⟩
    · rintro ⟨rfl, hvalid⟩
      exact ⟨hvalid, rfl⟩

/-- A load succeeds with exactly this: the one source that is chosen, each setting from the topmost layer that has it,
and everything checked, what the source says already before anything is laid over it. -/
theorem load_eq_ok_iff {host : Host} {path : Option Text} {overrides : Option Choices} {r : Loaded} :
    load host path overrides = .ok r ↔
      Chosen host path r.source ∧ ∃ written, Says host r.source written ∧
        (∃ base, Layers host.environment {} written base ∧ Valid base) ∧
        Layers host.environment (overrides.getD {}) written r.settings ∧ Valid r.settings := by
  rw [load_eq]
  constructor
  · intro h
    obtain ⟨source, hsource, h⟩ := Except.bind_eq_ok_iff.mp h
    obtain ⟨base, hbase, h⟩ := Except.bind_eq_ok_iff.mp h
    obtain ⟨s, hs, h⟩ := Except.bind_eq_ok_iff.mp h
    obtain rfl := Except.ok.inj h
    obtain ⟨written, hsays, ⟨c, hexpand, rfl⟩, hvalid⟩ := base_eq_ok_iff.mp hbase
    obtain ⟨hs, hsettings⟩ := (layOver_eq_ok_iff hvalid).mp hs
    exact ⟨source_eq_ok_iff.mp hsource, written, hsays, ⟨_, layers_none_iff.mpr ⟨c, hexpand, rfl⟩, hvalid⟩,
      (layers_iff hexpand).mpr hs, hsettings⟩
  · rintro ⟨hchosen, written, hsays, ⟨base, hbase, hvalid⟩, hlayers, hsettings⟩
    obtain ⟨c, hexpand, rfl⟩ := layers_none_iff.mp hbase
    have hbase := base_eq_ok_iff.mpr ⟨written, hsays, ⟨c, hexpand, rfl⟩, hvalid⟩
    have hs := (layOver_eq_ok_iff hvalid).mpr ⟨(layers_iff hexpand).mp hlayers, hsettings⟩
    simp [source_eq_ok_iff.mpr hchosen, hbase, hs, bind, Except.bind, pure, Except.pure]

/-- A directory of the name in the working directory, a file of the name above it, and another one further up. -/
def hostWithNearestFile : Host where
  files := ⟨[(["home", "docs", fileName], .directory),
    (["home", fileName], .file (bytesOfText <|
      "[render]\nstyle_prefix = 'x-'\napp_base_var_name = 'ui.$\x7bAPP\x7d'\nmax_parsing_time_ms = 70\n".toList ++
        "strikethrough = true\ntoggler_append = 'accumulate-all'\n")),
    ([fileName], .file (bytesOfText "[render]\nstyle_prefix = 'far-'\n"))]⟩
  cwd := ["home", "docs"]
  environment := .ofList [("APP", "portal")]

/-- The time is the one that is laid over the file's, the accessor is the file's with the variable's value, and what
neither has is the default. -/
theorem load_eq_ok_iff_nearest_file :
    let source := some (Source.found ["home", fileName])
    let given : Choices := { timeLimit := some 100, sharedIds := some true }
    let settings : Settings :=
      { default with
        stylePrefix := "x-", app := "ui.portal", timeLimit := 100, strikethrough := true, sharedIds := true,
        togglerMode := .accumulateAll }
    load hostWithNearestFile none (some given) = .ok ⟨settings, source⟩ ∧
      Chosen hostWithNearestFile none source ∧ ∃ written, Says hostWithNearestFile source written ∧
        (∃ base, Layers hostWithNearestFile.environment {} written base ∧ Valid base) ∧
        Layers hostWithNearestFile.environment given written settings ∧ Valid settings := by
  intro source given settings
  have hload : load hostWithNearestFile none (some given) = .ok ⟨settings, source⟩ :=
    Except.toOption_eq_some_iff.mp (by decide +kernel)
  exact ⟨hload, load_eq_ok_iff.mp hload⟩

end Markweave.Settings
