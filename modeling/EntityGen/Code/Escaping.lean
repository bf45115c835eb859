import EntityGen.Text.Basic

/-! # Texts in generated code

A text of the schema stands in a string literal or in a documentation comment. In a literal a quote,
a backslash and the control characters of lines and tabs are escaped, so that no text ends it early.
A note becomes one comment line for each of its lines, with the characters of tags escaped.
-/

namespace EntityGen.Code

open Text

def escapeChar (c : Char) : List Char :=
  match c with
  | '"' => ['\\', '"']
  | '\\' => ['\\', '\\']
  | '\n' => ['\\', 'n']
  | '\r' => ['\\', 'r']
  | '\t' => ['\\', 't']
  | c => [c]

def literal (value : String) : String :=
  String.ofList ('"' :: value.toList.flatMap escapeChar ++ ['"'])

def literals (values : List String) : String :=
  ", ".intercalate (values.map literal)

/-! ## Summary comments -/

def escapeTag (c : Char) : List Char :=
  match c with
  | '&' => "&amp;".toList
  | '<' => "&lt;".toList
  | '>' => "&gt;".toList
  | c => [c]

/-- The comment line for one line of a note. A blank line leaves nothing after the slashes. -/
def summaryLine (indent : List Char) (line : List Char) : List Char :=
  let shown := trimEnd line
  if shown.isEmpty then indent ++ "///\n".toList
  else indent ++ "/// ".toList ++ shown.flatMap escapeTag ++ ['\n']

/-- A blank note has no comment. -/
def summaryChars (indent note : List Char) : List Char :=
  let shown := trim note
  if shown.isEmpty then []
  else
    indent ++ "/// <summary>\n".toList ++ (lines shown).flatMap (summaryLine indent) ++
      indent ++ "/// </summary>\n".toList

def summary (indent : String) (note : Option String) : String :=
  match note with
  | some note => String.ofList (summaryChars indent.toList note.toList)
  | none => ""

end EntityGen.Code
