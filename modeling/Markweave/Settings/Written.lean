import Markweave.Settings.Basic
import Markweave.Toml.Value

namespace Markweave.Settings.Choices

/-- The keys, in the order in which an array in place of the table gives their values. -/
def keys : List Text :=
  ["style_prefix", "app_base_var_name", "max_parsing_time_ms", "tables", "strikethrough", "tasklists",
    "suppress_html", "shared_ids", "toggler_append", "default_styles"].map String.toList

def text? : Toml.Value → Option Text
  | .string t => some t
  | _ => none

def flag? : Toml.Value → Option Bool
  | .boolean b => some b
  | _ => none

def milliseconds? : Toml.Value → Option Nat
  | .integer n => if 0 ≤ n ∧ n < UInt64.size then some n.toNat else none
  | _ => none

def togglerModeNamed? (name : Text) : Option TogglerMode :=
  if name = "keep-last".toList then some .keepLast
  else if name = "accumulate-all".toList then some .accumulateAll
  else none

/-- A mode is written by its name alone, or as the only key of a table with nothing in it. -/
def togglerMode? : Toml.Value → Option TogglerMode
  | .string name => togglerModeNamed? name
  | .table _ [(name, .table _ [])] => togglerModeNamed? name
  | .table _ [(name, .array [])] => togglerModeNamed? name
  | _ => none

/-- An absent key chooses nothing. -/
def choice? (read? : Toml.Value → Option α) : Option Toml.Value → Option (Option α)
  | none => some none
  | some v => (read? v).map some

def ofEntries? (es : Toml.Entries) : Option Choices := do
  let choose {α : Type} (key : String) (read? : Toml.Value → Option α) : Option (Option α) :=
    choice? read? (es.get? key.toList)
  return {
    stylePrefix := ← choose "style_prefix" text?
    app := ← choose "app_base_var_name" text?
    timeLimit := ← choose "max_parsing_time_ms" milliseconds?
    tables := ← choose "tables" flag?
    strikethrough := ← choose "strikethrough" flag?
    taskLists := ← choose "tasklists" flag?
    suppressHtml := ← choose "suppress_html" flag?
    sharedIds := ← choose "shared_ids" flag?
    togglerMode := ← choose "toggler_append" togglerMode?
    defaultStyles := ← choose "default_styles" flag? }

/-- Keys that mean nothing here are passed over, and a value of the wrong kind refuses the document. -/
def ofDocument? (document : Toml.Entries) : Option Choices :=
  match document.get? "render".toList with
  | none => some {}
  | some (.table _ es) => ofEntries? es
  | some (.array vs) => ofEntries? (keys.zip vs)
  | some _ => none

end Markweave.Settings.Choices
