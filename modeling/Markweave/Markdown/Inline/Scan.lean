import Markweave.Markdown.Inline.Emphasis
import Markweave.Markdown.Link
import Markweave.Markdown.Marker
import Markweave.Markdown.RawHtml
import Markweave.Unicode.Ranges

namespace Markweave.Markdown.Inline

open Unicode (isAsciiPunctuation isPunctuation)

/-- What the reading depends on. -/
structure Context where
  strikethrough : Bool
  definitions : Link.Definitions
  inTable : Bool
  /-- Blanks at the end of the text do not count. -/
  trimEnd : Bool

/-- An opening bracket without a partner yet. -/
structure Bracket where
  isImage : Bool
  /-- A link inside switches the brackets of links around it off. -/
  active : Bool
  /-- The text behind the bracket. -/
  source : Text
  /-- What stands before the bracket, last first. -/
  before : List Node

/-- Code, raw HTML, references and escapes are settled where they stand; brackets wait for their partner, and
runs of emphasis marks are kept for the end. -/
structure Scan where
  /-- What stands behind the innermost open bracket, last first. -/
  nodes : List Node
  brackets : List Bracket
  /-- The character before the place. -/
  previous : Option Char

/-- What a step has found, and how many characters it has used up behind the first. -/
structure Step where
  scan : Scan
  used : Nat

namespace Scan

def start : Scan := ⟨[], [], none⟩

def push (s : Scan) (i : Inline) : Scan := { s with nodes := .inline i :: s.nodes }

def pushText (s : Scan) (t : Text) : Scan := s.push (.text t)

def literal (b : Bracket) : Node := .inline (.text (if b.isImage then "![" else "["))

/-- An open bracket turns into text. -/
def giveUp (s : Scan) (b : Bracket) (below : List Bracket) : Scan :=
  { s with nodes := s.nodes ++ literal b :: b.before, brackets := below }

/-- A pair of brackets turns into a link or an image. -/
def link (s : Scan) (b : Bracket) (below : List Bracket) (t : Link.Target) : Scan :=
  let inside := resolve s.nodes.reverse
  if b.isImage then
    { s with nodes := .inline (.image t.url t.title inside) :: b.before, brackets := below }
  else
    { s with
      nodes := .inline (.link t.url t.title inside) :: b.before
      brackets := below.map fun x => { x with active := x.active && x.isImage } }

/-- All that was read, open brackets as text. -/
def finish (s : Scan) : List Inline :=
  resolve <| (s.brackets.foldl (fun nodes b => nodes ++ literal b :: b.before) s.nodes).reverse

end Scan

/-- White space or the edge of the text. -/
def isGap (c : Option Char) : Bool := c.all Unicode.isBlank

def isMark (c : Option Char) : Bool := c.any isPunctuation

/-- Single underscores and single tildes do nothing inside a word. -/
def isWithinWords (mark : Char) (length : Nat) : Bool := mark == '*' || (mark == '~' && 1 < length)

def canOpen (mark : Char) (length : Nat) (before after : Option Char) : Bool :=
  !isGap after &&
    ((isWithinWords mark length && !isMark after) || isGap before || isMark before)

def canClose (mark : Char) (length : Nat) (before after : Option Char) : Bool :=
  !isGap before &&
    ((isWithinWords mark length && !isMark before) || isGap after || isMark after)

/-- Code up to the next run of exactly so many backticks, and what follows. -/
def codeUpTo? (length : Nat) : Nat → Text → Option (Text × Text)
  | _, [] => none
  | n + 1, c :: s => (codeUpTo? length n s).map fun (inside, rest) => (c :: inside, rest)
  | 0, c :: s =>
    if c.toNat = 96 then
      let n := Marker.runLength c (c :: s)
      if n = length then some ([], s.drop (n - 1))
      else (codeUpTo? length (n - 1) s).map fun (inside, rest) => (c :: inside, rest)
    else (codeUpTo? length 0 s).map fun (inside, rest) => (c :: inside, rest)

/-- Line ends become spaces, and in a table an escaped bar becomes a bar. -/
def flattenCode (inTable : Bool) : Text → Text
  | [] => []
  | '\\' :: '|' :: s =>
    if inTable then '|' :: flattenCode inTable s else '\\' :: '|' :: flattenCode inTable s
  | c :: s => (if isLineEnd c then ' ' else c) :: flattenCode inTable s

/-- One space on either side does not belong to the code, unless it is all spaces. -/
def trimCode (s : Text) : Text :=
  if s.head? == some ' ' && s.getLast? == some ' ' && !s.all (· == ' ') then (s.drop 1).dropLast
  else s

/-- A break behind blanks, given the text from the line end on: the columns before the next line's text
do not count. -/
def breakLine (s : Scan) (hard : Bool) (lineEnd : Text) (blanks : Nat) : Step :=
  let rest := (dropLineEnd? lineEnd).getD []
  let next := rest.dropWhile fun c => c == ' ' || c == '\t'
  { scan := s.push (if hard then .hardBreak else .softBreak),
    used := blanks + (lineEnd.length - next.length) - 1 }

/-- What a reference behind a closing bracket names, and what follows. `inner` is the text between the
brackets, which serves as label where no other is given. -/
def reference? (ctx : Context) (inner rest : Text) : Option (Link.Target × Text) :=
  let own (rest : Text) : Option (Link.Target × Text) :=
    match Link.label? .running (inner ++ [']']) with
    | some (label, []) => (ctx.definitions.find? label).map (·, rest)
    | _ => none
  match rest with
  | '[' :: ']' :: after => own after
  | '[' :: s =>
    match Link.label? .running s with
    | some (label, after) => (ctx.definitions.find? label).map (·, after)
    | none => own rest
  | _ => own rest

def closeBracket (ctx : Context) (st : Scan) (s : Text) : Step :=
  match st.brackets with
  | [] => ⟨st.pushText [']'], 0⟩
  | b :: below =>
    if !b.active then ⟨(st.giveUp b below).pushText [']'], 0⟩
    else match Link.inline? ctx.inTable s with
      | some (url, title, rest) => ⟨st.link b below ⟨url, title⟩, s.length - rest.length⟩
      | none =>
        let inner := b.source.take (b.source.length - s.length - 1)
        match reference? ctx inner s with
        | some (target, rest) => ⟨st.link b below target, s.length - rest.length⟩
        | none => ⟨(st.giveUp b below).pushText [']'], 0⟩

def blanks (ctx : Context) (st : Scan) (c : Char) (s : Text) : Step :=
  let run := (c :: s).takeWhile isInlineBlank
  let rest := (c :: s).drop run.length
  match rest with
  | [] => if ctx.trimEnd then ⟨st, s.length⟩ else ⟨st.pushText run, s.length⟩
  | d :: _ =>
    if isLineEnd d then breakLine st (2 ≤ run.length) rest run.length
    else ⟨st.pushText run, run.length - 1⟩

def backslash (ctx : Context) (st : Scan) (s : Text) : Step :=
  match s with
  | [] => ⟨st.pushText ['\\'], 0⟩
  | c :: rest =>
    if isLineEnd c && (dropLineEnd? s).any (· ≠ []) then breakLine st true s 1
    else if ctx.inTable && c == '\\' && rest.head? == some '|' then ⟨st.pushText ['|'], 2⟩
    else if isAsciiPunctuation c then ⟨st.pushText [c], 1⟩
    else ⟨st.pushText ['\\'], 0⟩

def backticks (ctx : Context) (st : Scan) (c : Char) (s : Text) : Step :=
  let n := Marker.runLength c (c :: s)
  let behind := s.drop (n - 1)
  match codeUpTo? n 0 behind with
  | some (inside, rest) =>
    ⟨st.push (.code (trimCode (flattenCode ctx.inTable inside))), s.length - rest.length⟩
  | none => ⟨st.pushText (List.replicate n c), n - 1⟩

def marks (st : Scan) (c : Char) (s : Text) : Step :=
  let n := Marker.runLength c (c :: s)
  let after := (s.drop (n - 1)).head?
  let opens := canOpen c n st.previous after
  let closes := canClose c n st.previous after
  if (opens || closes) && (c != '~' || n ≤ 2) then
    ⟨{ st with nodes := .run ⟨c, n, n, opens, closes⟩ :: st.nodes }, n - 1⟩
  else ⟨st.pushText (List.replicate n c), n - 1⟩

def openBracket (st : Scan) (isImage : Bool) (source : Text) : Scan :=
  { st with nodes := [], brackets := ⟨isImage, true, source, st.nodes⟩ :: st.brackets }

/-- Reads what begins with a character, given what follows it. -/
def step (ctx : Context) (st : Scan) (c : Char) (s : Text) : Step :=
  if isInlineBlank c then blanks ctx st c s
  else if isLineEnd c then breakLine st false (c :: s) 0
  else if c = '\\' then backslash ctx st s
  else if c.toNat = 96 then backticks ctx st c s
  else if c = '*' || c = '_' || (c = '~' && ctx.strikethrough) then marks st c s
  else if c = '[' then ⟨openBracket st false s, 0⟩
  else if c = '!' && s.head? == some '[' then ⟨openBracket st true (s.drop 1), 1⟩
  else if c = ']' then closeBracket ctx st s
  else if c = '&' then
    match CharacterReference.read? s with
    | some (value, rest) => ⟨st.pushText value, s.length - rest.length⟩
    | none => ⟨st.pushText ['&'], 0⟩
  else if c = '<' then
    match RawHtml.inline? (c :: s) with
    | some (markup, rest) => ⟨st.push (.html markup), s.length - rest.length⟩
    | none => ⟨st.pushText ['<'], 0⟩
  else ⟨st.pushText [c], 0⟩

/-- Reads a text from a place on; so many of its characters are used up already. -/
def scan (ctx : Context) : Scan → Nat → Text → Scan
  | st, _, [] => st
  | st, n + 1, _ :: s => scan ctx st n s
  | st, 0, c :: s =>
    let next := step ctx st c s
    let last := (s.take next.used).getLast?.getD c
    scan ctx { next.scan with previous := some last } next.used s

/-- Running text. -/
def read (ctx : Context) (s : Text) : List Inline := (scan ctx .start 0 s).finish

end Markweave.Markdown.Inline
