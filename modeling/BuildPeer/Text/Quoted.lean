import BuildPeer.Text.Hidden
import BuildPeer.Text.Numeral

/-!
Quoted texts, the form in which error messages and the journal show a text: between double quotes,
with tab, line breaks, quote, backslash and NUL escaped by a letter and every other hidden
character by its code point.
-/

namespace BuildPeer.Text

def quotedChar (c : Char) : String :=
  match c with
  | '\t' => "\\t"
  | '\r' => "\\r"
  | '\n' => "\\n"
  | '"' => "\\\""
  | '\\' => "\\\\"
  | '\x00' => "\\0"
  | c => if isHidden c then "\\u\x7b" ++ hex c.toNat ++ "\x7d" else c.toString

def quoted (text : String) : String :=
  "\"" ++ text.foldl (fun done c => done ++ quotedChar c) "" ++ "\""

end BuildPeer.Text
