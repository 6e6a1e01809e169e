import NodeSidecar.Text.Decimal
import NodeSidecar.Yaml.Place
/-!
# YAML — scalars

Plain and quoted scalars. A scalar may go over several lines: a break between
two lines of it is read as a space, further breaks are kept, and gaps around
breaks are dropped.
-/

namespace NodeSidecar.Yaml

/-- What stands between two words of a scalar. -/
inductive Between where
  /-- Nothing. -/
  | nothing
  /-- Gaps on one line. -/
  | gaps (cs : List Char)
  /-- A break and the breaks after it. The first one is left out if it was
  written to be dropped. -/
  | breaks (first : Option Char) (others : List Char)
  deriving DecidableEq, Repr

namespace Between

/-- A gap or a break more. -/
def add (c : Char) : Between → Between
  | nothing => if isBreak c then breaks (some c) [] else gaps [c]
  | gaps cs => if isBreak c then breaks (some c) [] else gaps (cs ++ [c])
  | breaks first others =>
    if isBreak c then breaks first (others ++ [c]) else breaks first others

/-- What it is read as. -/
def read : Between → List Char
  | nothing => []
  | gaps cs => cs
  | breaks none others => others
  | breaks (some c) others =>
    if c = '\n' then if others.isEmpty then [' '] else others else c :: others

/-- It goes over a line. -/
def hasBreak : Between → Bool
  | breaks .. => true
  | _ => false

end Between

/-! ## Plain scalars -/

/-- A character that ends a plain scalar inside brackets. -/
def endsInFlow (c : Char) : Bool :=
  c = ',' || c = '[' || c = ']' || c = '\x7b' || c = '\x7d'

/-- Whether a character comes next that no colon may stand before inside
brackets. -/
def startsAfterColon : List Placed → Bool
  | [] => false
  | p :: _ => endsInFlow p.char || p.char = '?'

/-- Whether a plain scalar stops before a word: at the mark of a document, at
a comment, or outside brackets at a word that is not indented enough. -/
def stopsAtWord (inFlow : Bool) (indent : Nat) (between : Between) (ps : List Placed) : Bool :=
  match ps with
  | [] => true
  | p :: _ =>
    startsDocument ps || p.char = '#'
      || (!inFlow && between ≠ .nothing && decide (p.column < indent))

/-- Reads a plain scalar on: `atWord` says that a word may begin, `between`
what stands before it, `text` what has been read, the last character first.
Answers the text, whether a break follows it, and what comes then. -/
def plainFrom (inFlow : Bool) (indent : Nat) (atWord : Bool) (between : Between)
    (text : List Char) : List Placed → Option (List Char × Bool × List Placed)
  | [] => some (text.reverse, between.hasBreak, [])
  | p :: rest =>
    if isGap p.char || isBreak p.char then
      if p.char = '\t' && between.hasBreak && decide (p.column < indent) then none
      else plainFrom inFlow indent true (between.add p.char) text rest
    else if atWord && stopsAtWord inFlow indent between (p :: rest) then
      some (text.reverse, between.hasBreak, p :: rest)
    else if inFlow && p.char = ':' && startsAfterColon rest then none
    else if (p.char = ':' && startsOpen rest) || (inFlow && endsInFlow p.char) then
      some (text.reverse, between.hasBreak, p :: rest)
    else
      plainFrom inFlow indent false .nothing (p.char :: (between.read.reverse ++ text)) rest

/-- Reads a plain scalar. -/
def plain (inFlow : Bool) (indent : Nat) (ps : List Placed) :
    Option (List Char × Bool × List Placed) :=
  plainFrom inFlow indent true .nothing [] ps

/-! ## Quoted scalars -/

/-- Reads a scalar in single quotes on. A quote inside it is written twice. -/
def singleFrom (between : Between) (text : List Char) :
    List Placed → Option (List Char × List Placed)
  | [] => none
  | p :: rest =>
    if isGap p.char || isBreak p.char then singleFrom (between.add p.char) text rest
    else if startsDocument (p :: rest) then none
    else
      let text := between.read.reverse ++ text
      if p.char = '\'' then
        match rest with
        | q :: rest' =>
          if q.char = '\'' then singleFrom .nothing ('\'' :: text) rest'
          else some (text.reverse, q :: rest')
        | [] => some (text.reverse, [])
      else singleFrom .nothing (p.char :: text) rest

/-- The characters that a letter after a backslash stands for. -/
def escapes : List (Char × Nat) :=
  [('0', 0x00), ('a', 0x07), ('b', 0x08), ('t', 0x09), ('\t', 0x09), ('n', 0x0A), ('v', 0x0B),
    ('f', 0x0C), ('r', 0x0D), ('e', 0x1B), (' ', 0x20), ('"', 0x22), ('/', 0x2F), ('\\', 0x5C),
    ('N', 0x85), ('_', 0xA0), ('L', 0x2028), ('P', 0x2029)]

/-- How many hexadecimal digits follow a letter after a backslash. -/
def codeLength? (c : Char) : Option Nat :=
  if c = 'x' then some 2 else if c = 'u' then some 4 else if c = 'U' then some 8 else none

/-- The character of a code in hexadecimal digits. -/
def codeChar? (length : Nat) (ps : List Placed) : Option Char :=
  let digits := (ps.take length).map (·.char)
  if digits.length = length then
    match Text.digitsIn? 16 0x10FFFF digits with
    | some n => if 0xD800 ≤ n ∧ n ≤ 0xDFFF then none else some (Char.ofNat n)
    | none => none
  else none

/-- What an escape is read as, and how many characters it takes after the
backslash. A break is read as nothing. -/
def escape? : List Placed → Option (Option Char × Nat)
  | [] => none
  | p :: rest =>
    if isBreak p.char then some (none, 1)
    else
      match codeLength? p.char with
      | some length => (codeChar? length rest).map fun c => (some c, length + 1)
      | none => (escapes.lookup p.char).map fun n => (some (Char.ofNat n), 1)

/-- Reads a scalar in double quotes on; `skip` characters are passed over. -/
def doubleFrom (skip : Nat) (between : Between) (text : List Char) :
    List Placed → Option (List Char × List Placed)
  | [] => none
  | p :: rest =>
    match skip with
    | skip + 1 => doubleFrom skip between text rest
    | 0 =>
      if isGap p.char || isBreak p.char then doubleFrom 0 (between.add p.char) text rest
      else if startsDocument (p :: rest) then none
      else
        let text := between.read.reverse ++ text
        if p.char = '"' then some (text.reverse, rest)
        else if p.char = '\\' then
          match escape? rest with
          | none => none
          | some (none, length) => doubleFrom length (.breaks none []) text rest
          | some (some c, length) => doubleFrom length .nothing (c :: text) rest
        else doubleFrom 0 .nothing (p.char :: text) rest

/-- Reads a quoted scalar after its first quote. -/
def quoted (quote : Char) (ps : List Placed) : Option (List Char × List Placed) :=
  if quote = '"' then doubleFrom 0 .nothing [] ps else singleFrom .nothing [] ps

end NodeSidecar.Yaml
