import Markweave.Settings.Written

namespace Markweave.Settings.Choices

/-- An absent key chooses nothing, a present one what its value says. -/
inductive Entry (Says : Toml.Value → α → Prop) : Option Toml.Value → Option α → Prop
  | absent : Entry Says none none
  | present {v : Toml.Value} {a : α} (h : Says v a) : Entry Says (some v) (some a)

inductive SaysText : Toml.Value → Text → Prop
  | string (t : Text) : SaysText (.string t) t

inductive SaysFlag : Toml.Value → Bool → Prop
  | boolean (b : Bool) : SaysFlag (.boolean b) b

/-- Whole numbers of 64 bits. -/
inductive SaysMilliseconds : Toml.Value → Nat → Prop
  | integer {n : Nat} (h : n < UInt64.size) : SaysMilliseconds (.integer n) n

inductive NamesMode : Text → TogglerMode → Prop
  | keepLast : NamesMode "keep-last" .keepLast
  | accumulateAll : NamesMode "accumulate-all" .accumulateAll

/-- A mode stands by its name, or the name is the only key of a table and has nothing below it. -/
inductive SaysMode : Toml.Value → TogglerMode → Prop
  | name {t : Text} {mode : TogglerMode} (h : NamesMode t mode) : SaysMode (.string t) mode
  | emptyTable {t : Text} {mode : TogglerMode} {o o' : Toml.Origin} (h : NamesMode t mode) :
      SaysMode (.table o [(t, .table o' [])]) mode
  | emptyArray {t : Text} {mode : TogglerMode} {o : Toml.Origin} (h : NamesMode t mode) :
      SaysMode (.table o [(t, .array [])]) mode

/-- What the keys of a table choose, one for each setting. Other keys choose nothing. -/
structure WrittenIn (c : Choices) (es : Toml.Entries) : Prop where
  stylePrefix : Entry SaysText (es.get? "style_prefix") c.stylePrefix
  app : Entry SaysText (es.get? "app_base_var_name") c.app
  timeLimit : Entry SaysMilliseconds (es.get? "max_parsing_time_ms") c.timeLimit
  tables : Entry SaysFlag (es.get? "tables") c.tables
  strikethrough : Entry SaysFlag (es.get? "strikethrough") c.strikethrough
  taskLists : Entry SaysFlag (es.get? "tasklists") c.taskLists
  suppressHtml : Entry SaysFlag (es.get? "suppress_html") c.suppressHtml
  sharedIds : Entry SaysFlag (es.get? "shared_ids") c.sharedIds
  togglerMode : Entry SaysMode (es.get? "toggler_append") c.togglerMode
  defaultStyles : Entry SaysFlag (es.get? "default_styles") c.defaultStyles

/-- The table of a document that holds its settings. An array in its place gives the values in the order of the keys. -/
inductive Table (document : Toml.Entries) : Toml.Entries → Prop
  | absent (h : document.get? "render" = none) : Table document []
  | table {o : Toml.Origin} {es : Toml.Entries} (h : document.get? "render" = some (.table o es)) : Table document es
  | array {vs : List Toml.Value} (h : document.get? "render" = some (.array vs)) : Table document (keys.zip vs)

theorem choice?_eq_some_iff {read? : Toml.Value → Option α} {Says : Toml.Value → α → Prop}
    (h : ∀ v a, read? v = some a ↔ Says v a) {entry : Option Toml.Value} {choice : Option α} :
    choice? read? entry = some choice ↔ Entry Says entry choice := by
  cases entry with
  | none =>
    constructor
    · rintro ⟨⟩
      exact .absent
    · rintro ⟨⟩
      rfl
  | some v =>
    rw [choice?, Option.map_eq_some_iff]
    constructor
    · rintro ⟨a, ha, rfl⟩
      exact .present ((h v a).mp ha)
    · rintro (_ | ha)
      exact ⟨_, (h v _).mpr ha, rfl⟩

theorem text?_eq_some_iff (v : Toml.Value) (t : Text) : text? v = some t ↔ SaysText v t := by
  constructor
  · intro h
    unfold text? at h
    split at h
    · obtain rfl := Option.some.inj h
      exact .string _
    · cases h
  · rintro ⟨⟩
    rfl

theorem flag?_eq_some_iff (v : Toml.Value) (b : Bool) : flag? v = some b ↔ SaysFlag v b := by
  constructor
  · intro h
    unfold flag? at h
    split at h
    · obtain rfl := Option.some.inj h
      exact .boolean _
    · cases h
  · rintro ⟨⟩
    rfl

theorem milliseconds?_eq_some_iff (v : Toml.Value) (n : Nat) :
    milliseconds? v = some n ↔ SaysMilliseconds v n := by
  constructor
  · intro h
    unfold milliseconds? at h
    split at h
    · next k =>
      split at h
      · next hk =>
        obtain rfl := Option.some.inj h
        obtain ⟨n, rfl⟩ := Int.eq_ofNat_of_zero_le hk.1
        exact .integer (Int.ofNat_lt.mp hk.2)
      · cases h
    · cases h
  · rintro ⟨h⟩
    have hrange : (0 : Int) ≤ n ∧ (n : Int) < UInt64.size := ⟨Int.natCast_nonneg n, Int.ofNat_lt.mpr h⟩
    rw [milliseconds?, if_pos hrange, Int.toNat_natCast]

theorem togglerModeNamed?_eq_some_iff {name : Text} {mode : TogglerMode} :
    togglerModeNamed? name = some mode ↔ NamesMode name mode := by
  constructor
  · intro h
    unfold togglerModeNamed? at h
    split at h
    · next hname =>
      obtain rfl := Option.some.inj h
      exact hname ▸ .keepLast
    · split at h
      · next hname =>
        obtain rfl := Option.some.inj h
        exact hname ▸ .accumulateAll
      · cases h
  · rintro ⟨⟩ <;> rfl

theorem togglerMode?_eq_some_iff (v : Toml.Value) (mode : TogglerMode) :
    togglerMode? v = some mode ↔ SaysMode v mode := by
  constructor
  · intro h
    unfold togglerMode? at h
    split at h
    · exact .name (togglerModeNamed?_eq_some_iff.mp h)
    · exact .emptyTable (togglerModeNamed?_eq_some_iff.mp h)
    · exact .emptyArray (togglerModeNamed?_eq_some_iff.mp h)
    · cases h
  · rintro (h | h | h) <;> exact togglerModeNamed?_eq_some_iff.mpr h

theorem ofEntries?_eq_some_iff {es : Toml.Entries} {c : Choices} : ofEntries? es = some c ↔ c.WrittenIn es := by
  simp only [ofEntries?, Option.bind_eq_bind, Option.bind_eq_some_iff, choice?_eq_some_iff text?_eq_some_iff,
    choice?_eq_some_iff flag?_eq_some_iff, choice?_eq_some_iff milliseconds?_eq_some_iff,
    choice?_eq_some_iff togglerMode?_eq_some_iff]
  constructor
  · rintro ⟨_, h₁, _, h₂, _, h₃, _, h₄, _, h₅, _, h₆, _, h₇, _, h₈, _, h₉, _, h₁₀, ⟨⟩⟩
    exact ⟨h₁, h₂, h₃, h₄, h₅, h₆, h₇, h₈, h₉, h₁₀⟩
  · rintro ⟨h₁, h₂, h₃, h₄, h₅, h₆, h₇, h₈, h₉, h₁₀⟩
    exact ⟨_, h₁, _, h₂, _, h₃, _, h₄, _, h₅, _, h₆, _, h₇, _, h₈, _, h₉, _, h₁₀, rfl⟩

/-- A document makes the choices that its table writes, and is refused if a key of it says nothing. -/
theorem ofDocument?_eq_some_iff {document : Toml.Entries} {c : Choices} :
    ofDocument? document = some c ↔ ∃ es, Table document es ∧ c.WrittenIn es := by
  constructor
  · intro h
    unfold ofDocument? at h
    split at h
    · next habsent =>
      obtain rfl := Option.some.inj h
      exact ⟨[], .absent habsent, ofEntries?_eq_some_iff.mp rfl⟩
    · next htable => exact ⟨_, .table htable, ofEntries?_eq_some_iff.mp h⟩
    · next harray => exact ⟨_, .array harray, ofEntries?_eq_some_iff.mp h⟩
    · cases h
  · rintro ⟨es, htable, hwritten⟩
    have hes := ofEntries?_eq_some_iff.mpr hwritten
    unfold ofDocument?
    cases htable with
    | absent h => rw [h]; exact hes
    | table h => rw [h]; exact hes
    | array h => rw [h]; exact hes

end Markweave.Settings.Choices
