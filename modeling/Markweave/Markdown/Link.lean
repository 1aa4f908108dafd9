import Markweave.Markdown.CharacterReference
import Markweave.Markdown.Line
import Markweave.Unicode.CaseFold
import Markweave.Unicode.Punctuation

namespace Markweave.Markdown.Link

open Unicode (isAsciiPunctuation)

/-- Backslash escapes and character references resolved, carriage returns left out. In a table two
backslashes before a bar count as an escape of the bar. -/
def unescapeFrom (inTable : Bool) : Nat → Text → Text
  | _, [] => []
  | n + 1, _ :: s => unescapeFrom inTable n s
  | 0, '\\' :: s =>
    match s with
    | [] => ['\\']
    | c :: rest =>
      if inTable && c == '\\' && rest.head? == some '|' then unescapeFrom inTable 1 s
      else if isAsciiPunctuation c then c :: unescapeFrom inTable 1 s
      else '\\' :: unescapeFrom inTable 0 s
  | 0, '&' :: s =>
    match CharacterReference.read? s with
    | some (value, rest) => value ++ unescapeFrom inTable (s.length - rest.length) s
    | none => '&' :: unescapeFrom inTable 0 s
  | 0, c :: s => if c == '\r' then unescapeFrom inTable 0 s else c :: unescapeFrom inTable 0 s

def unescape (inTable : Bool) (s : Text) : Text := unescapeFrom inTable 0 s

/-- A destination in angle brackets, behind the opening one. -/
def bracketed? : Text → Option (Text × Text)
  | [] => none
  | '>' :: s => some ([], s)
  | '\\' :: c :: s =>
    if isAsciiPunctuation c then (bracketed? s).map fun (d, rest) => ('\\' :: c :: d, rest)
    else (bracketed? (c :: s)).map fun (d, rest) => ('\\' :: d, rest)
  | c :: s =>
    if isLineEnd c || c == '<' then none else (bracketed? s).map fun (d, rest) => (c :: d, rest)

/-- A bare destination ends at a blank, a control character or a parenthesis that it did not open;
parentheses must be balanced and may be nested to a limit. -/
def bare? (limit : Nat) : Nat → Text → Option (Text × Text)
  | nest, [] => if nest = 0 then some ([], []) else none
  | nest, '(' :: s =>
    if limit < nest then none else (bare? limit (nest + 1) s).map fun (d, rest) => ('(' :: d, rest)
  | nest, ')' :: s =>
    if nest = 0 then some ([], ')' :: s)
    else (bare? limit (nest - 1) s).map fun (d, rest) => (')' :: d, rest)
  | nest, '\\' :: c :: s =>
    if isAsciiPunctuation c then (bare? limit nest s).map fun (d, rest) => ('\\' :: c :: d, rest)
    else (bare? limit nest (c :: s)).map fun (d, rest) => ('\\' :: d, rest)
  | nest, c :: s =>
    if c.toNat ≤ 32 then if nest = 0 then some ([], c :: s) else none
    else (bare? limit nest s).map fun (d, rest) => (c :: d, rest)

/-- A destination as it is written. -/
def destination? (limit : Nat) : Text → Option (Text × Text)
  | '<' :: s => bracketed? s
  | s => bare? limit 0 s

/-- The delimiter that closes a title opened by another. -/
def titleClose? : Char → Option Char
  | '"' => some '"'
  | '\'' => some '\''
  | '(' => some ')'
  | _ => none

/-- Tells what is left of a line, given the text from the line on, or that it does not go on here. -/
abbrev NextLine := Text → Option Text

/-- In running text blanks at the start of a line do not count. -/
def NextLine.running : NextLine := fun s => some (s.dropWhile fun c => c == ' ' || c == '\t')

/-- A title up to its close. -/
def titleFrom? (inTable : Bool) (nextLine? : NextLine) (opener closer : Char) :
    Nat → Text → Option (Text × Text)
  | _, [] => none
  | n + 1, _ :: s => titleFrom? inTable nextLine? opener closer n s
  | 0, c :: s =>
    let keep (value : Text) (n : Nat) : Option (Text × Text) :=
      (titleFrom? inTable nextLine? opener closer n s).map fun (t, rest) => (value ++ t, rest)
    if c = closer then some ([], s)
    else if c = opener then none
    else if isLineEnd c then
      match (dropLineEnd? (c :: s)).bind nextLine? with
      | some next => keep ['\n'] (s.length - next.length)
      | none => none
    else if c = '&' then
      match CharacterReference.read? s with
      | some (value, rest) => keep value (s.length - rest.length)
      | none => keep [c] 0
    else if c = '\\' then
      match s with
      | d :: more =>
        if inTable && d == '\\' && more.head? == some '|' then keep ['|'] 2
        else if isAsciiPunctuation d then keep [d] 1
        else keep [c] 0
      | [] => keep [c] 0
    else keep [c] 0

def title? (inTable : Bool) (nextLine? : NextLine) : Text → Option (Text × Text)
  | [] => none
  | opener :: s => (titleClose? opener).bind fun closer => titleFrom? inTable nextLine? opener closer 0 s

/-- Blanks with at most one line end among them. -/
def skipSeparator (s : Text) : Text :=
  let s := s.dropWhile isInlineBlank
  match s with
  | [] => []
  | _ =>
    match dropLineEnd? s with
    | some next => next.dropWhile isInlineBlank
    | none => s

/-- The most parentheses that may be open in the destination of a link. -/
def inlineNesting : Nat := 5

/-- The most parentheses that may be open in the destination of a definition. -/
def definitionNesting : Nat := 1

/-- Destination and title in parentheses, given what follows the closing bracket of a link. -/
def inline? (inTable : Bool) : Text → Option (Text × Text × Text)
  | '(' :: s => do
    let (destination, rest) ← destination? inlineNesting (skipSeparator s)
    let rest := skipSeparator rest
    let (title, rest) := match title? inTable .running rest with
      | some (title, after) => (title, skipSeparator after)
      | none => ([], rest)
    match rest with
    | ')' :: after => some (unescape inTable destination, title, after)
    | _ => none
  | _ => none

/-- The longest label, in characters. -/
def labelLimit : Nat := 1000

/-- A label behind its opening bracket, as it is written, and what follows the closing one. A label has
no bracket that is not escaped. -/
def labelFrom? (nextLine? : NextLine) : Nat → Text → Option (Text × Text)
  | _, [] => none
  | n + 1, _ :: s => labelFrom? nextLine? n s
  | 0, '[' :: _ => none
  | 0, ']' :: s => some ([], s)
  | 0, '\\' :: s =>
    match s with
    | [] => none
    | c :: _ => (labelFrom? nextLine? 1 s).map fun (l, rest) => ('\\' :: c :: l, rest)
  | 0, c :: s =>
    if isLineEnd c then do
      let next ← nextLine? (← dropLineEnd? (c :: s))
      let (l, rest) ← labelFrom? nextLine? (s.length - next.length) s
      some ('\n' :: l, rest)
    else (labelFrom? nextLine? 0 s).map fun (l, rest) => (c :: l, rest)

/-- Runs of blanks become one space. -/
def squeeze : Text → Text
  | [] => []
  | c :: s =>
    if isAsciiBlank c then
      match squeeze s with
      | ' ' :: more => ' ' :: more
      | more => ' ' :: more
    else c :: squeeze s

/-- Labels that differ in case and blanks only are the same. -/
def normalize (label : Text) : Text := Unicode.fold (squeeze label)

/-- A label that can name a definition: not blank, not too long. -/
def label? (nextLine? : NextLine) (s : Text) : Option (Text × Text) :=
  (labelFrom? nextLine? 0 s).filter fun (label, _) =>
    !label.all isAsciiBlank && label.length < labelLimit

structure Target where
  url : Text
  title : Text
deriving Repr, DecidableEq

/-- Definitions by normalized label; of several with one label the first counts. A label may be referred to as often as
a document likes: the limit that a reader may set on the total size of what references expand to is not modelled. -/
abbrev Definitions := List (Text × Target)

def Definitions.find? (ds : Definitions) (label : Text) : Option Target := ds.lookup (normalize label)

def Definitions.add (ds : Definitions) (label : Text) (t : Target) : Definitions :=
  ds ++ [(normalize label, t)]

end Markweave.Markdown.Link
