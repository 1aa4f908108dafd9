import Markweave.FileTree
import Markweave.Text.Quoted

namespace Markweave

namespace Settings

/-- The settings whose text may refer to environment variables. -/
inductive TextField
  | stylePrefix
  | app
deriving Repr, DecidableEq

def TextField.name : TextField → Text
  | stylePrefix => "render.style_prefix"
  | app => "render.app_base_var_name"

inductive Fault
  | prefixChar (c : Char)
  | appEmpty
  | appNotIdentifier (app : Text)
  | noTime
deriving Repr, DecidableEq

def Fault.message : Fault → Text
  | prefixChar c => TextField.stylePrefix.name ++ " contains invalid character " ++ Text.quoteChar c
  | appEmpty => TextField.app.name ++ " cannot be empty"
  | appNotIdentifier app =>
    TextField.app.name ++ " must be a JavaScript identifier, got " ++ Text.quote app
  | noTime => "render.max_parsing_time_ms must be greater than 0"

end Settings

inductive SettingsError
  | missing (path : Text)
  | unreadable (reason : FileError)
  | malformed
  | invalid (fault : Settings.Fault)
  | unset (field : Settings.TextField) (name : Text)
deriving Repr, DecidableEq

def SettingsError.message : SettingsError → Text
  | missing path => "Configuration file not found: " ++ path
  | unreadable reason => "I/O error: " ++ reason.message
  | malformed => "TOML parse error"
  | invalid fault => "Configuration error: " ++ fault.message
  | unset field name =>
    "Environment variable error in " ++ field.name ++ ": $\x7b" ++ name ++ "\x7d not set"

end Markweave
