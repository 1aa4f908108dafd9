import Markweave.Settings.Basic
import Markweave.Settings.Error

namespace Markweave.Settings

def isPrefixChar (c : Char) : Bool := c.isAlphanum || c = '-' || c = '_'

def isIdentifierStart (c : Char) : Bool := c.isAlpha || c = '_' || c = '$'

def isIdentifierChar (c : Char) : Bool := c.isAlphanum || c = '_' || c = '$'

def isIdentifier : Text → Bool
  | [] => false
  | c :: s => isIdentifierStart c && s.all isIdentifierChar

/-- Identifiers joined by single dots. -/
def isDottedIdentifier (s : Text) : Bool := (Text.splitOn '.' s).all isIdentifier

def fault? (s : Settings) : Option Fault :=
  match s.stylePrefix.find? (!isPrefixChar ·) with
  | some c => some (.prefixChar c)
  | none =>
    if s.app = [] then some .appEmpty
    else if !isDottedIdentifier s.app then some (.appNotIdentifier s.app)
    else if s.timeLimit = 0 then some .noTime
    else none

/-- The settings themselves, if nothing is wrong with them. -/
def validate (s : Settings) : Except SettingsError Settings :=
  match s.fault? with
  | some f => .error (.invalid f)
  | none => .ok s

theorem fault?_default : default.fault? = none := by decide

theorem validate_eq_ok_iff {s r : Settings} : s.validate = .ok r ↔ s.fault? = none ∧ r = s := by
  cases h : s.fault? <;> simp [validate, h, eq_comm]

end Markweave.Settings
